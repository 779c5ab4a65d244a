import ViewLayers.Proofs.Json.Keys
import ViewLayers.Proofs.Json.Reading
import ViewLayers.Script.Render

/-!
# One value in two formats

A procedure as JSON keeps the entries of a record as they come, a script sorts them by name and
keeps the last of a name. What stands in a script is then the sorted form of what stands in the
JSON, and a reader for which objects have no order, and the last of a name wins, sees no
difference between a document and its sorted form.
-/

namespace ViewLayers

open Value (Occurs)

inductive Value.SharedKey : Value → Prop where
  | bool (b : Bool) : SharedKey (.bool b)
  | int (n : Int) : SharedKey (.int n)
  | string (s : String) : SharedKey (.string s)

/-- A value for which both formats have the same words: nothing in it has a tag, and every key is
a text, a whole number or a truth value. -/
structure Value.Shared (v : Value) : Prop where
  tagless : ∀ tag w, ¬ Occurs (.tagged tag w) v
  keys : ∀ r, Occurs (.record r) v → ∀ e ∈ r, e.1.SharedKey

section Shared

variable {v : Value} {items : List Value} {entries : List (Value × Value)}

theorem Value.SharedKey.shared (h : v.SharedKey) : v.Shared where
  tagless tag w hw := by cases h <;> cases hw
  keys r hr := by cases h <;> cases hr

theorem Value.shared_null : Value.null.Shared := ⟨fun _ _ => nofun, fun _ => nofun⟩

theorem Value.shared_float (x : Binary64) : (Value.float x).Shared :=
  ⟨fun _ _ => nofun, fun _ => nofun⟩

theorem Value.shared_list_iff : (Value.list items).Shared ↔ ∀ v ∈ items, v.Shared := by
  constructor
  · intro h v hv
    exact ⟨fun tag w hw => h.tagless tag w (.item hv hw), fun r hr => h.keys r (.item hv hr)⟩
  · intro h
    constructor
    · rintro tag w (_ | ⟨hv, hw⟩)
      exact (h _ hv).tagless tag w hw
    · rintro r (_ | ⟨hv, hr⟩)
      exact (h _ hv).keys r hr

theorem Value.shared_record_iff :
    (Value.record entries).Shared ↔ ∀ e ∈ entries, e.1.SharedKey ∧ e.2.Shared := by
  constructor
  · intro h e he
    exact ⟨h.keys entries .here e he, fun tag w hw => h.tagless tag w (.value he hw),
      fun r hr => h.keys r (.value he hr)⟩
  · intro h
    constructor
    · rintro tag w (_ | _ | ⟨he, hw⟩ | ⟨he, hw⟩)
      · exact (h _ he).1.shared.tagless tag w hw
      · exact (h _ he).2.tagless tag w hw
    · rintro r (_ | _ | ⟨he, hr⟩ | ⟨he, hr⟩)
      · exact fun e he => (h e he).1
      · exact (h _ he).1.shared.keys r hr
      · exact (h _ he).2.keys r hr

end Shared

namespace Json

theorem induction {P : Json → Prop} (null : P .null) (bool : ∀ b, P (.bool b))
    (int : ∀ n, P (.int n)) (float : ∀ x, P (.float x)) (string : ∀ s, P (.string s))
    (array : ∀ items : List Json, (∀ d ∈ items, P d) → P (.array items))
    (object : ∀ members : List (String × Json), (∀ m ∈ members, P m.2) → P (.object members))
    (d : Json) : P d :=
  @Json.rec P (fun items => ∀ d ∈ items, P d) (fun members => ∀ m ∈ members, P m.2)
    (fun m => P m.2) null bool int float string array object
    (List.forall_mem_nil _) (fun _ _ hd hds => List.forall_mem_cons.2 ⟨hd, hds⟩)
    (List.forall_mem_nil _) (fun _ _ hm hms => List.forall_mem_cons.2 ⟨hm, hms⟩)
    (fun _ _ hd => hd) d

mutual

def sorted : Json → Json
  | .null => .null
  | .bool b => .bool b
  | .int n => .int n
  | .float x => .float x
  | .string s => .string s
  | .array items => .array (sortedItems items)
  | .object members => .object (collect (sortedMembers members))

def sortedItems : List Json → List Json
  | [] => []
  | d :: ds => d.sorted :: sortedItems ds

def sortedMembers : List (String × Json) → List (String × Json)
  | [] => []
  | (name, d) :: ms => (name, d.sorted) :: sortedMembers ms

end

section Sorted

@[simp] theorem sorted_array (items : List Json) :
    (array items).sorted = .array (items.map sorted) := by
  have hitems : sortedItems items = items.map sorted := by
    induction items with
    | nil => rfl
    | cons d ds ih => rw [sortedItems, ih, List.map_cons]
  rw [sorted, hitems]

@[simp] theorem sorted_object (members : List (String × Json)) :
    (object members).sorted = .object (collect (members.map fun m => (m.1, m.2.sorted))) := by
  have hmembers : sortedMembers members = members.map fun m => (m.1, m.2.sorted) := by
    induction members with
    | nil => rfl
    | cons m ms ih => rw [sortedMembers, ih, List.map_cons]
  rw [sorted, hmembers]

@[simp] theorem toValue_array (items : List Json) :
    (array items).toValue = .list (items.map toValue) := by
  rw [toValue, itemsToValues_eq_map]

@[simp] theorem toValue_sorted (d : Json) : d.sorted.toValue = d.toValue := by
  induction d using Json.induction with
  | null | bool | int | float | string => rw [sorted]
  | array items ih =>
    rw [sorted_array, toValue_array, toValue_array, List.map_map]
    exact congrArg Value.list (List.map_congr_left ih)
  | object members ih =>
    have hvalues : (members.map fun m => (m.1, m.2.sorted.toValue)) =
        members.map fun m => (m.1, m.2.toValue) :=
      List.map_congr_left fun m hm => by rw [ih m hm]
    rw [sorted_object, toValue_object, toValue_object, map_collect, List.map_map,
      (increasing_collect _).collect_eq]
    exact congrArg (fun ms => Value.record (namedValues (collect ms))) hvalues

end Sorted

section Reading

theorem sorted_of_atom? {letters : List Char} {d : Json} (h : Reading.atom? letters = some d) :
    d.sorted = d := by
  unfold Reading.atom? at h
  split_ifs at h
  · cases h; rw [sorted]
  · cases h; rw [sorted]
  · cases h; rw [sorted]
  · obtain ⟨n, -, hn⟩ := Option.bind_eq_some_iff.1 h
    simp only [Numeral.toJson?] at hn
    split_ifs at hn
    · cases hn; rw [sorted]
    · cases hn; rw [sorted]
    · obtain ⟨x, -, rfl⟩ := Option.map_eq_some_iff.1 hn
      rw [sorted]

theorem readBack?_sorted {d : Json} {room : Nat} {w : Json} (h : readBack? room d = some w) :
    readBack? room d.sorted = some w.sorted := by
  induction d using Json.induction generalizing room w with
  | null | bool | string =>
    rw [readBack?] at h
    cases h
    rw [sorted, readBack?]
  | int n =>
    rw [sorted, h]
    rw [readBack?] at h
    rw [sorted_of_atom? h]
  | float x =>
    rw [sorted, h]
    rw [readBack?] at h
    rw [sorted_of_atom? h]
  | array items ih =>
    cases room with
    | zero =>
      rw [readBack?] at h
      cases h
    | succ room =>
      rw [readBack?] at h
      obtain ⟨ws, hws, rfl⟩ := Option.map_eq_some_iff.1 h
      have hsorted : readItems? room (items.map sorted) = some (ws.map sorted) := by
        rw [readItems?_eq_some_iff, List.forall₂_map_left_iff, List.forall₂_map_right_iff]
        exact ((List.forall₂_and_left items ws).2 ⟨@ih, readItems?_eq_some_iff.1 hws⟩).imp
          fun d w hd => hd.1 hd.2
      rw [sorted_array, sorted_array, readBack?, hsorted]
      rfl
  | object members ih =>
    cases room with
    | zero =>
      rw [readBack?] at h
      cases h
    | succ room =>
      rw [readBack?] at h
      obtain ⟨ns, hns, rfl⟩ := Option.map_eq_some_iff.1 h
      have hmembers : List.Forall₂ (SameNamed fun d w => readBack? room d = some w)
          (members.map fun m => (m.1, m.2.sorted)) (ns.map fun n => (n.1, n.2.sorted)) := by
        rw [List.forall₂_map_left_iff, List.forall₂_map_right_iff]
        exact ((List.forall₂_and_left members ns).2 ⟨@ih, readMembers?_eq_some_iff.1 hns⟩).imp
          fun m n hm => ⟨hm.2.1, hm.1 hm.2.2⟩
      have hsorted := readMembers?_eq_some_iff.2 (forall₂_collect hmembers)
      rw [sorted_object, sorted_object, readBack?, hsorted]
      rfl

end Reading

section Exact

theorem memberName_eq_keyText {k : Value} (h : k.SharedKey) : memberName k = .ok k.keyText := by
  cases h <;> rfl

theorem exists_exactItems {items : List Value}
    (h : ∀ v ∈ items, ∃ d, exact v = .ok d ∧ d.sorted = ofValue v) :
    ∃ ds, exactItems items = .ok ds ∧ ds.map sorted = items.map ofValue := by
  induction items with
  | nil => exact ⟨[], rfl, rfl⟩
  | cons v vs ih =>
    obtain ⟨⟨d, hd, hsorted⟩, hvs⟩ := List.forall_mem_cons.1 h
    obtain ⟨ds, hds, hitems⟩ := ih hvs
    refine ⟨d :: ds, ?_, by rw [List.map_cons, List.map_cons, hsorted, hitems]⟩
    rw [exactItems, hd, hds]
    rfl

theorem exists_exactEntries {entries : List (Value × Value)}
    (h : ∀ e ∈ entries, memberName e.1 = .ok e.1.keyText ∧
      ∃ d, exact e.2 = .ok d ∧ d.sorted = ofValue e.2) :
    ∃ ms, exactEntries entries = .ok ms ∧
      (ms.map fun m => (m.1, m.2.sorted)) = entries.map fun e => (e.1.keyText, ofValue e.2) := by
  induction entries with
  | nil => exact ⟨[], rfl, rfl⟩
  | cons e es ih =>
    obtain ⟨⟨hname, d, hd, hsorted⟩, hes⟩ := List.forall_mem_cons.1 h
    obtain ⟨ms, hms, hmembers⟩ := ih hes
    refine ⟨(e.1.keyText, d) :: ms, ?_, by rw [List.map_cons, List.map_cons, hsorted, hmembers]⟩
    rw [exactEntries, hname, hd, hms]
    rfl

theorem exists_exact_of_shared {v : Value} (h : v.Shared) :
    ∃ d, exact v = .ok d ∧ d.sorted = ofValue v := by
  induction v using Value.induction_written with
  | null | bool | int | string => exact ⟨_, rfl, by rw [sorted, ofValue]⟩
  | float x =>
    refine ⟨_, rfl, ?_⟩
    rw [ofValue, ofFloat]
    split <;> rw [sorted]
  | list items ih =>
    obtain ⟨ds, hds, hitems⟩ := exists_exactItems fun v hv =>
      ih v hv (Value.shared_list_iff.1 h v hv)
    refine ⟨.array ds, by rw [exact, hds]; rfl, ?_⟩
    rw [sorted_array, hitems, ofValue, ofItems_eq_map]
  | record entries ih =>
    obtain ⟨ms, hms, hmembers⟩ := exists_exactEntries fun e he =>
      have hentry := Value.shared_record_iff.1 h e he
      ⟨memberName_eq_keyText hentry.1, ih e he hentry.2⟩
    refine ⟨.object ms, by rw [exact, hms]; rfl, ?_⟩
    rw [sorted_object, hmembers, ofValue_record, ofRecord_eq]
  | tagged tag v => exact absurd .here (h.tagless tag v)

end Exact

/-- What stands in a script and what stands in the JSON is one value for a reader that gives
objects no order and lets the last of a name win, as documents and as texts. -/
structure Agrees (script : String) (d : Json) : Prop where
  value : ∃ e : Json, script = e.compact ∧ e.toValue = d.toValue
  read : ∀ depth w, ofText? (prettyAt depth d) = some w →
    ∃ e, ofText? script = some e ∧ e.toValue = w.toValue

theorem agrees_sorted (d : Json) : Agrees d.sorted.compact d where
  value := ⟨d.sorted, rfl, toValue_sorted d⟩
  read depth w h := by
    rw [ofText?_prettyAt] at h
    refine ⟨w.sorted, ?_, toValue_sorted w⟩
    rw [ofText?_compact]
    exact readBack?_sorted h

/-- The options of an asset, and a method that is no text, stand in a script as the value that
stands in the JSON of their statement, if both formats have the same words for them. -/
theorem agrees_of_shared :
    (∀ kind (asset : Asset), (Value.record asset.options).Shared → ∃ members,
      ofStatement (.addAsset kind asset) = .ok (operation "add_asset"
        [("kind", .string (kindName kind)), ("name", .string asset.name),
          ("position", .string asset.position), ("options", .object members)]) ∧
      Agrees (Script.recordLiteral asset.options) (.object members)) ∧
    ∀ method : Value, method.Shared → (∀ s, method ≠ .string s) → ∃ d,
      ofStatement (.setEscapingMethod method) =
        .ok (operation "set_escaping_method" [("method", d)]) ∧
      Agrees (Script.valueLiteral method) d := by
  constructor
  · intro kind asset h
    obtain ⟨d, hd, hsorted⟩ := exists_exact_of_shared h
    rw [exact] at hd
    cases hms : exactEntries asset.options with
    | error fault => rw [hms] at hd; cases hd
    | ok ms =>
      rw [hms] at hd
      cases hd
      have hliteral : Script.recordLiteral asset.options = (object ms).sorted.compact := by
        rw [hsorted, ofValue_record, Script.recordLiteral]
      refine ⟨ms, by rw [ofStatement, hms]; rfl, ?_⟩
      rw [hliteral]
      exact agrees_sorted _
  · intro method h hne
    obtain ⟨d, hd, hsorted⟩ := exists_exact_of_shared h
    have hliteral : Script.valueLiteral method = d.sorted.compact := by
      rw [hsorted]
      cases method with
      | string s => exact absurd rfl (hne s)
      | tagged tag v => exact absurd .here (h.tagless tag v)
      | null => rw [Script.valueLiteral, ofValue, compact]
      | _ => rw [Script.valueLiteral]
    refine ⟨d, by rw [ofStatement, hd]; rfl, ?_⟩
    rw [hliteral]
    exact agrees_sorted d

def twiceNamed : Record :=
  [(.string "1", .record [(.string "b", .bool true), (.string "a", .float Binary64.nan)]),
    (.bool true, .list [.int (-5), .float (Binary64.infinity true)]), (.int 1, .null),
    (.string "true", .string "on")]

theorem agrees_of_shared_twiceNamed :
    (Value.record twiceNamed).Shared ∧
      (∃ members, ofStatement (.addAsset .stylesheet ⟨"main", "last", twiceNamed⟩) =
          .ok (operation "add_asset" [("kind", .string "stylesheet"), ("name", .string "main"),
            ("position", .string "last"), ("options", .object members)]) ∧
        Agrees (Script.recordLiteral twiceNamed) (.object members)) ∧
      (∀ s, Value.list [.record twiceNamed] ≠ .string s) ∧
      ∃ d, ofStatement (.setEscapingMethod (.list [.record twiceNamed])) =
          .ok (operation "set_escaping_method" [("method", d)]) ∧
        Agrees (Script.valueLiteral (.list [.record twiceNamed])) d := by
  have h : (Value.record twiceNamed).Shared := by
    simp only [twiceNamed, Value.shared_record_iff, Value.shared_list_iff, List.forall_mem_cons]
    exact ⟨⟨.string _, ⟨.string _, (Value.SharedKey.bool _).shared⟩,
        ⟨.string _, Value.shared_float _⟩, List.forall_mem_nil _⟩,
      ⟨.bool _, (Value.SharedKey.int _).shared, Value.shared_float _, List.forall_mem_nil _⟩,
      ⟨.int _, Value.shared_null⟩, ⟨.string _, (Value.SharedKey.string _).shared⟩,
      List.forall_mem_nil _⟩
  have hlist : (Value.list [.record twiceNamed]).Shared :=
    Value.shared_list_iff.2 (List.forall_mem_singleton.2 h)
  have hne : ∀ s, Value.list [.record twiceNamed] ≠ .string s := fun _ => nofun
  exact ⟨h, agrees_of_shared.1 .stylesheet ⟨"main", "last", twiceNamed⟩ h, hne,
    agrees_of_shared.2 _ hlist hne⟩

end Json

end ViewLayers
