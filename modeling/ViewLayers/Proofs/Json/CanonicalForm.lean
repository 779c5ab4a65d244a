import ViewLayers.Proofs.Json.Members
import ViewLayers.Script.Render

/-!
# The canonical form of option records

The form of a value is described without the way it is written: names increase in the order of
their bytes, the last key of a name gives the value, and tags are not shown. Every value has one
form, and it is the one that is written. The order of entries and the tags of values leave no
trace in it, but a record that is a key is spelled out with its entries as they come.
-/

namespace ViewLayers

def Record.lastNamed? (r : Record) (name : String) : Option Value :=
  (r.filter fun e => e.1.keyText = name).getLast?.map Prod.snd

/-- Values that differ only in the order of entries and in tags. Entries change places where no
two keys have one name. -/
inductive Value.Rearranged : Value → Value → Prop where
  | refl (v : Value) : Rearranged v v
  | symm {v w : Value} : Rearranged v w → Rearranged w v
  | trans {u v w : Value} : Rearranged u v → Rearranged v w → Rearranged u w
  | untag (tag : String) (v : Value) : Rearranged (.tagged tag v) v
  | reorder {es fs : List (Value × Value)} : es.Perm fs →
      (es.map fun e => e.1.keyText).Nodup → Rearranged (.record es) (.record fs)
  | item {v w : Value} (before after : List Value) : Rearranged v w →
      Rearranged (.list (before ++ v :: after)) (.list (before ++ w :: after))
  | value {v w : Value} (before after : List (Value × Value)) (k : Value) : Rearranged v w →
      Rearranged (.record (before ++ (k, v) :: after)) (.record (before ++ (k, w) :: after))

namespace Json

inductive Within (d : Json) : Json → Prop where
  | here : Within d d
  | item {items : List Json} {e : Json} : e ∈ items → Within d e → Within d (.array items)
  | member {members : List (String × Json)} {m : String × Json} : m ∈ members →
      Within d m.2 → Within d (.object members)

def ByteOrdered (members : List (String × Json)) : Prop :=
  members.Pairwise fun m n => utf8Bytes m.1 < utf8Bytes n.1

/-- The form of a value in a script. -/
inductive Form : Value → Json → Prop where
  | null : Form .null .null
  | bool (b : Bool) : Form (.bool b) (.bool b)
  | int (n : Int) : Form (.int n) (.int n)
  | float {x : Binary64} : x.isFinite = true → Form (.float x) (.float x)
  | notFinite {x : Binary64} : x.isFinite = false → Form (.float x) .null
  | string (s : String) : Form (.string s) (.string s)
  | list {items : List Value} {docs : List Json} : List.Forall₂ Form items docs →
      Form (.list items) (.array docs)
  | record {entries : List (Value × Value)} {members : List (String × Json)} :
      ByteOrdered members →
      (∀ name, Option.Rel Form (Record.lastNamed? entries name) (Entries.get? members name)) →
      Form (.record entries) (.object members)
  | tagged {tag : String} {v : Value} {d : Json} : Form v d → Form (.tagged tag v) d

section Form

theorem byteOrdered_iff_increasing {members : List (String × Json)} :
    ByteOrdered members ↔ Increasing members := by
  simp only [ByteOrdered, Increasing, Entries.keys, List.pairwise_map, utf8Bytes_lt_iff]

theorem get?_collect_entries (entries : List (Value × Value)) (name : String) :
    Entries.get? (collect (entries.map fun e => (e.1.keyText, ofValue e.2))) name =
      (Record.lastNamed? entries name).map ofValue := by
  have hlast := Entries.get?_ofPairs_map (fun e : Value × Value => e.1.keyText)
    (fun e => ofValue e.2) entries name
  rw [get?_collect, hlast, Record.lastNamed?, Option.map_map]
  rfl

theorem mem_of_lastNamed? {entries : List (Value × Value)} {name : String} {v : Value}
    (h : Record.lastNamed? entries name = some v) : ∃ e ∈ entries, e.2 = v := by
  obtain ⟨e, he, rfl⟩ := Option.map_eq_some_iff.1 h
  exact ⟨e, (List.mem_filter.1 (List.mem_of_getLast? he)).1, rfl⟩

theorem form_ofValue (v : Value) : Form v (ofValue v) := by
  induction v using Value.induction_written with
  | null => rw [ofValue]; exact .null
  | bool b => rw [ofValue]; exact .bool b
  | int n => rw [ofValue]; exact .int n
  | string s => rw [ofValue]; exact .string s
  | float x =>
    rw [ofValue, ofFloat]
    cases h : x.isFinite with
    | true => exact .float h
    | false => exact .notFinite h
  | list items ih =>
    rw [ofValue, ofItems_eq_map]
    exact .list (List.forall₂_map_right_iff.2 (List.forall₂_same.2 ih))
  | record entries ih =>
    rw [ofValue_record, ofRecord_eq]
    refine .record (byteOrdered_iff_increasing.2 (increasing_collect _)) fun name => ?_
    rw [get?_collect_entries]
    cases hlast : Record.lastNamed? entries name with
    | none => exact .none
    | some v =>
      obtain ⟨e, he, rfl⟩ := mem_of_lastNamed? hlast
      exact .some (ih e he)
  | tagged tag v ih => rw [ofValue]; exact .tagged ih

theorem eq_map_ofValue_of_rel {v? : Option Value} {d? : Option Json}
    (h : Option.Rel Form v? d?) (hv : ∀ v, v? = some v → ∀ {d}, Form v d → d = ofValue v) :
    d? = v?.map ofValue := by
  cases h with
  | none => rfl
  | some hform => exact congrArg some (hv _ rfl hform)

theorem eq_ofValue_of_form {v : Value} {d : Json} (h : Form v d) : d = ofValue v := by
  induction v using Value.induction_written generalizing d with
  | null | bool | int | string => cases h; rw [ofValue]
  | float x =>
    rw [ofValue, ofFloat]
    cases h with
    | float hx => rw [if_pos hx]
    | notFinite hx => rw [hx, if_neg Bool.false_ne_true]
  | list items ih =>
    cases h with
    | @list _ docs hitems =>
      have hdocs : List.Forall₂ (· = ·) (items.map ofValue) docs := by
        rw [List.forall₂_map_left_iff]
        refine ((List.forall₂_and_left items docs).2 ⟨@ih, hitems⟩).imp ?_
        rintro v d ⟨hv, hform⟩
        exact (hv hform).symm
      rw [List.forall₂_eq_eq_eq] at hdocs
      rw [ofValue, ofItems_eq_map, hdocs]
  | record entries ih =>
    cases h with
    | @record _ members hordered hform =>
      have hincreasing := byteOrdered_iff_increasing.1 hordered
      rw [ofValue_record, ofRecord_eq]
      refine congrArg Json.object (hincreasing.ext (increasing_collect _) fun name => ?_)
      rw [get?_collect_entries]
      refine eq_map_ofValue_of_rel (hform name) fun v hv => ?_
      obtain ⟨e, he, rfl⟩ := mem_of_lastNamed? hv
      exact ih e he
  | tagged tag v ih =>
    cases h with
    | tagged h =>
      rw [ofValue]
      exact ih h

end Form

theorem exists_of_mem_collect {entries : List (Value × Value)} {m : String × Json}
    (h : m ∈ collect (entries.map fun e => (e.1.keyText, ofValue e.2))) :
    ∃ e ∈ entries, ofValue e.2 = m.2 := by
  have hget := (increasing_collect _).distinct.get?_eq_some_of_mem h
  rw [get?_collect_entries, Option.map_eq_some_iff] at hget
  obtain ⟨v, hv, hm⟩ := hget
  obtain ⟨e, he, rfl⟩ := mem_of_lastNamed? hv
  exact ⟨e, he, hm⟩

theorem byteOrdered_of_within {v : Value} {members : List (String × Json)}
    (h : Within (.object members) (ofValue v)) : ByteOrdered members := by
  induction v using Value.induction_written with
  | null | bool | int | string => rw [ofValue] at h; cases h
  | float x =>
    rw [ofValue, ofFloat] at h
    split at h <;> cases h
  | list items ih =>
    rw [ofValue, ofItems_eq_map] at h
    cases h with
    | item hmem hwithin =>
      obtain ⟨v, hv, rfl⟩ := List.mem_map.1 hmem
      exact ih v hv hwithin
  | record entries ih =>
    rw [ofValue_record, ofRecord_eq] at h
    cases h with
    | here => exact byteOrdered_iff_increasing.2 (increasing_collect _)
    | member hmem hwithin =>
      obtain ⟨e, he, hm⟩ := exists_of_mem_collect hmem
      exact ih e he (hm ▸ hwithin)
  | tagged tag v ih =>
    rw [ofValue] at h
    exact ih h

theorem ofValue_eq_of_rearranged {v w : Value} (h : v.Rearranged w) : ofValue v = ofValue w := by
  induction h with
  | refl v => rfl
  | symm _ ih => exact ih.symm
  | trans _ _ ihu ihv => exact ihu.trans ihv
  | untag tag v => rw [ofValue]
  | @reorder es fs hperm hnodup =>
    have hdistinct : Entries.Distinct (es.map fun e => (e.1.keyText, ofValue e.2)) := by
      rw [Entries.distinct_iff_pairwise_keys, Entries.keys, List.map_map]
      exact hnodup.imp fun hne => beq_eq_false_iff_ne.2 hne
    rw [ofValue_record, ofValue_record, ofRecord_eq, ofRecord_eq,
      collect_eq_of_perm (hperm.map _) hdistinct]
  | item before after _ ih =>
    simp only [ofValue, ofItems_eq_map, List.map_append, List.map_cons, ih]
  | value before after k _ ih =>
    simp only [ofValue_record, ofRecord_eq, List.map_append, List.map_cons, ih]

end Json

/-- An option record is written as its one form: at every depth the names increase in the order of
their bytes, each has the value of the last key of that name, and tags are gone. Records that
differ only in the order of their entries, at any depth, and in tags are written alike. -/
theorem Script.recordLiteral_canonical (r : Record) :
    (∃ d, recordLiteral r = d.compact ∧ (∀ e, Json.Form (.record r) e ↔ e = d) ∧
      ∀ members, Json.Within (.object members) d → Json.ByteOrdered members) ∧
      ∀ s : Record, Value.Rearranged (.record r) (.record s) →
        recordLiteral s = recordLiteral r := by
  constructor
  · refine ⟨Json.ofValue (.record r), by rw [Json.ofValue_record, recordLiteral], fun e => ?_,
      fun _ => Json.byteOrdered_of_within⟩
    constructor
    · exact Json.eq_ofValue_of_form
    · rintro rfl
      exact Json.form_ofValue (.record r)
  · intro s h
    have hdoc := Json.ofValue_eq_of_rearranged h
    rw [Json.ofValue_record, Json.ofValue_record] at hdoc
    rw [recordLiteral, recordLiteral, hdoc]

namespace Script

def sizes : Record := [(.string "height", .int 2), (.string "width", .int 3)]

def taggedSizes : Record :=
  [(.string "sizes", .tagged "px" (.list [.record sizes])), (.string "media", .null)]

def plainSizes : Record :=
  [(.string "media", .null), (.string "sizes", .list [.record sizes.reverse])]

theorem recordLiteral_canonical_taggedSizes :
    Value.Rearranged (.record taggedSizes) (.record plainSizes) ∧
      recordLiteral plainSizes = recordLiteral taggedSizes := by
  have hlist : Value.Rearranged (.tagged "px" (.list [.record sizes]))
      (.list [.record sizes.reverse]) :=
    .trans (.untag _ _) (.item [] [] (.reorder (List.reverse_perm sizes).symm (by decide)))
  have h : Value.Rearranged (.record taggedSizes) (.record plainSizes) :=
    .trans (.value [] [(.string "media", .null)] (.string "sizes") hlist)
      (.reorder (List.Perm.swap _ _ _) (by decide))
  exact ⟨h, (recordLiteral_canonical taggedSizes).2 plainSizes h⟩

/-- A record that is a key leaves the order of its entries in the name. -/
theorem recordLiteral_ne_of_recordKey :
    sizes.Perm sizes.reverse ∧ (sizes.map fun e => e.1.keyText).Nodup ∧
      (Value.record [(.record sizes, .null)] == .record [(.record sizes.reverse, .null)]) = true ∧
      recordLiteral [(.record sizes, .null)] ≠ recordLiteral [(.record sizes.reverse, .null)] := by
  refine ⟨(List.reverse_perm sizes).symm, by decide, by decide, by decide +kernel⟩

end Script

end ViewLayers
