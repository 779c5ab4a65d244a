import ViewLayers.Json.Reader
import ViewLayers.Proofs.Entries
import ViewLayers.Proofs.Text.ByteOrder

/-!
# Members of objects

Members are put into an object one by one, each at the place of its name. However they come, the
names of the object increase, and each has the value of its last member. Nothing else can be said
of an object, since increasing names and what they have determine it.
-/

namespace ViewLayers

theorem Value.induction_written {P : Value → Prop} (null : P .null) (bool : ∀ b, P (.bool b))
    (int : ∀ n, P (.int n)) (float : ∀ x, P (.float x)) (string : ∀ s, P (.string s))
    (list : ∀ items : List Value, (∀ v ∈ items, P v) → P (.list items))
    (record : ∀ entries : List (Value × Value), (∀ e ∈ entries, P e.2) → P (.record entries))
    (tagged : ∀ tag v, P v → P (.tagged tag v)) (v : Value) : P v :=
  @Value.rec P (fun items => ∀ v ∈ items, P v) (fun entries => ∀ e ∈ entries, P e.2)
    (fun e => P e.2) null bool int float string list record tagged
    (List.forall_mem_nil _) (fun _ _ hv hvs => List.forall_mem_cons.2 ⟨hv, hvs⟩)
    (List.forall_mem_nil _) (fun _ _ he hes => List.forall_mem_cons.2 ⟨he, hes⟩)
    (fun _ _ _ hv => hv) v

namespace Json

open Entries (get? keys ofPairs Distinct)

variable {β γ : Type} {R : β → γ → Prop}

def Increasing (ms : List (String × β)) : Prop := (keys ms).Pairwise (· < ·)

def SameNamed (R : β → γ → Prop) (m : String × β) (n : String × γ) : Prop :=
  m.1 = n.1 ∧ R m.2 n.2

def collect (ms : List (String × β)) : List (String × β) :=
  ms.foldl (fun done m => insertMember m.1 m.2 done) []

section Insert

@[simp] theorem get?_insertMember (name : String) (v : β) (ms : List (String × β))
    (other : String) :
    get? (insertMember name v ms) other = if name == other then some v else get? ms other := by
  induction ms with
  | nil => rfl
  | cons m ms ih =>
    obtain ⟨n, w⟩ := m
    rw [insertMember]
    split
    · rename_i h
      subst h
      cases hother : name == other <;> simp [hother]
    · split
      · rfl
      · rename_i hne _
        cases hn : n == other with
        | true =>
          have hname : (name == other) = false := by
            rw [← eq_of_beq hn]
            simpa using hne
          simp [hn, hname]
        | false => simp [hn, ih]

@[simp] theorem mem_keys_insertMember {name other : String} {v : β} {ms : List (String × β)} :
    other ∈ keys (insertMember name v ms) ↔ other = name ∨ other ∈ keys ms := by
  rw [Entries.mem_keys_iff, Entries.mem_keys_iff, Entries.has_eq_isSome_get?,
    Entries.has_eq_isSome_get?, get?_insertMember]
  cases h : name == other with
  | true => simp [eq_of_beq h]
  | false =>
    have hne : other ≠ name := fun heq => by simp [heq] at h
    simp [hne]

theorem increasing_insertMember {ms : List (String × β)} (h : Increasing ms) (name : String)
    (v : β) : Increasing (insertMember name v ms) := by
  induction ms with
  | nil => exact List.pairwise_singleton _ _
  | cons m ms ih =>
    obtain ⟨n, w⟩ := m
    obtain ⟨hfirst, hrest⟩ := List.pairwise_cons.1 h
    rw [insertMember]
    split
    · rename_i heq
      subst heq
      exact h
    · split
      · rename_i hlt
        refine List.pairwise_cons.2 ⟨fun other hother => ?_, h⟩
        rcases List.mem_cons.1 hother with rfl | hmem
        · exact hlt
        · exact lt_trans hlt (hfirst other hmem)
      · rename_i hne hlt
        refine List.pairwise_cons.2 ⟨fun other hother => ?_, ih hrest⟩
        rcases mem_keys_insertMember.1 hother with rfl | hmem
        · exact lt_of_le_of_ne (not_lt.1 hlt) (Ne.symm hne)
        · exact hfirst other hmem

theorem forall₂_insertMember {ms : List (String × β)} {ns : List (String × γ)}
    (h : List.Forall₂ (SameNamed R) ms ns) (name : String) {v : β} {w : γ} (hvw : R v w) :
    List.Forall₂ (SameNamed R) (insertMember name v ms) (insertMember name w ns) := by
  induction h with
  | nil => exact .cons ⟨rfl, hvw⟩ .nil
  | @cons m n ms ns hmn hrest ih =>
    obtain ⟨key, u⟩ := m
    obtain ⟨_, u'⟩ := n
    obtain ⟨rfl, hu⟩ := hmn
    simp only [insertMember]
    split
    · exact .cons ⟨rfl, hvw⟩ hrest
    · split
      · exact .cons ⟨rfl, hvw⟩ (.cons ⟨rfl, hu⟩ hrest)
      · exact .cons ⟨rfl, hu⟩ ih

end Insert

section Increasing

theorem Increasing.distinct {ms : List (String × β)} (h : Increasing ms) : Distinct ms :=
  Entries.distinct_iff_pairwise_keys.2 (h.imp fun hlt => beq_eq_false_iff_ne.2 (ne_of_lt hlt))

theorem Increasing.get?_eq_none_of_lt {ms : List (String × β)} {m : String × β}
    (h : Increasing (m :: ms)) {name : String} (hlt : name < m.1) : get? (m :: ms) name = none := by
  refine Entries.get?_eq_none_iff.2 fun e he => beq_eq_false_iff_ne.2 (Ne.symm (ne_of_lt ?_))
  rcases List.mem_cons.1 he with rfl | hmem
  · exact hlt
  · exact lt_trans hlt ((List.pairwise_cons.1 h).1 e.1 (List.mem_map_of_mem hmem))

theorem Increasing.ext {ms ns : List (String × β)} (hm : Increasing ms) (hn : Increasing ns)
    (h : ∀ name, get? ms name = get? ns name) : ms = ns := by
  induction ms generalizing ns with
  | nil =>
    cases ns with
    | nil => rfl
    | cons n ns => exact absurd (h n.1) (by simp)
  | cons m ms ih =>
    have hself : get? (m :: ms) m.1 = some m.2 := by simp
    cases ns with
    | nil => exact absurd (h m.1) (by simp)
    | cons n ns =>
      have hself' : get? (n :: ns) n.1 = some n.2 := by simp
      rcases lt_trichotomy m.1 n.1 with hlt | heq | hgt
      · have hnone := hn.get?_eq_none_of_lt hlt
        rw [← h, hself] at hnone
        cases hnone
      · rw [h, heq, hself'] at hself
        have hfirst : m = n := Prod.ext heq (Option.some.inj hself).symm
        subst hfirst
        refine congrArg (m :: ·) (ih (List.pairwise_cons.1 hm).2 (List.pairwise_cons.1 hn).2 ?_)
        intro name
        cases hname : m.1 == name with
        | true =>
          rw [← eq_of_beq hname, hm.distinct.get?_tail_eq_none, hn.distinct.get?_tail_eq_none]
        | false => simpa only [get?, hname, Bool.false_eq_true, ↓reduceIte] using h name
      · have hnone := hm.get?_eq_none_of_lt hgt
        rw [h, hself'] at hnone
        cases hnone

end Increasing

section Collect

theorem get?_collect (ms : List (String × β)) (name : String) :
    get? (collect ms) name = get? (ofPairs ms) name := by
  suffices h : ∀ done es : List (String × β), (∀ other, get? done other = get? es other) →
      get? (ms.foldl (fun done m => insertMember m.1 m.2 done) done) name =
        get? (ms.foldl (fun es m => Entries.put es m.1 m.2) es) name from h [] [] fun _ => rfl
  induction ms with
  | nil => exact fun done es h => h name
  | cons m ms ih =>
    intro done es h
    refine ih _ _ fun other => ?_
    rw [get?_insertMember, Entries.get?_put, h]

theorem increasing_collect (ms : List (String × β)) : Increasing (collect ms) := by
  suffices h : ∀ done : List (String × β), Increasing done →
      Increasing (ms.foldl (fun done m => insertMember m.1 m.2 done) done) from h [] .nil
  induction ms with
  | nil => exact fun done h => h
  | cons m ms ih => exact fun done h => ih _ (increasing_insertMember h m.1 m.2)

theorem forall₂_collect {ms : List (String × β)} {ns : List (String × γ)}
    (h : List.Forall₂ (SameNamed R) ms ns) :
    List.Forall₂ (SameNamed R) (collect ms) (collect ns) := by
  suffices hdone : ∀ (done : List (String × β)) (done' : List (String × γ)),
      List.Forall₂ (SameNamed R) done done' →
        List.Forall₂ (SameNamed R) (ms.foldl (fun done m => insertMember m.1 m.2 done) done)
          (ns.foldl (fun done n => insertMember n.1 n.2 done) done') from hdone [] [] .nil
  induction h with
  | nil => exact fun done done' hdone => hdone
  | @cons m n _ _ hmn _ ih =>
    intro done done' hdone
    have hput := forall₂_insertMember hdone m.1 hmn.2
    rw [List.foldl_cons, List.foldl_cons, ← hmn.1]
    exact ih _ _ hput

theorem map_collect (f : β → γ) (ms : List (String × β)) :
    (collect ms).map (fun m => (m.1, f m.2)) = collect (ms.map fun m => (m.1, f m.2)) := by
  have hmembers : List.Forall₂ (SameNamed fun v w => f v = w) ms
      (ms.map fun m => (m.1, f m.2)) :=
    List.forall₂_map_right_iff.2 (List.forall₂_same.2 fun _ _ => ⟨rfl, rfl⟩)
  rw [← List.forall₂_eq_eq_eq, List.forall₂_map_left_iff]
  exact (forall₂_collect hmembers).imp fun _ _ h => Prod.ext h.1 h.2

theorem Increasing.collect_eq {ms : List (String × β)} (h : Increasing ms) : collect ms = ms :=
  (increasing_collect ms).ext h fun name => by rw [get?_collect, h.distinct.ofPairs_eq]

theorem collect_eq_of_perm {ms ns : List (String × β)} (h : ms.Perm ns) (hd : Distinct ms) :
    collect ms = collect ns := by
  have hd' : Distinct ns := hd.perm h fun hab => by rwa [BEq.comm]
  refine (increasing_collect ms).ext (increasing_collect ns) fun name => ?_
  rw [get?_collect, get?_collect, hd.ofPairs_eq, hd'.ofPairs_eq]
  refine Option.ext fun v => ⟨fun hv => ?_, fun hv => ?_⟩
  · exact hd'.get?_eq_some_of_mem (h.mem_iff.1 (Entries.mem_of_get? hv))
  · exact hd.get?_eq_some_of_mem (h.mem_iff.2 (Entries.mem_of_get? hv))

end Collect

section Documents

theorem ofItems_eq_map (items : List Value) : ofItems items = items.map ofValue := by
  induction items with
  | nil => rfl
  | cons v vs ih => rw [ofItems, ih, List.map_cons]

theorem insertEntries_eq (done : List (String × Json)) (entries : List (Value × Value)) :
    insertEntries done entries =
      (entries.map fun e => (e.1.keyText, ofValue e.2)).foldl
        (fun done m => insertMember m.1 m.2 done) done := by
  induction entries generalizing done with
  | nil => rfl
  | cons e entries ih => rw [insertEntries, ih, List.map_cons, List.foldl_cons]

theorem ofRecord_eq (entries : List (Value × Value)) :
    ofRecord entries = .object (collect (entries.map fun e => (e.1.keyText, ofValue e.2))) :=
  congrArg Json.object (insertEntries_eq [] entries)

theorem ofValue_record (entries : List (Value × Value)) :
    ofValue (.record entries) = ofRecord entries := by
  rw [ofValue, ofRecord]

theorem itemsToValues_eq_map (items : List Json) : itemsToValues items = items.map toValue := by
  induction items with
  | nil => rfl
  | cons v vs ih => rw [itemsToValues, ih, List.map_cons]

theorem insertMembers_eq (done : List (String × Value)) (members : List (String × Json)) :
    insertMembers done members =
      (members.map fun m => (m.1, toValue m.2)).foldl
        (fun done m => insertMember m.1 m.2 done) done := by
  induction members generalizing done with
  | nil => rfl
  | cons m members ih => rw [insertMembers, ih, List.map_cons, List.foldl_cons]

theorem toValue_object (members : List (String × Json)) :
    toValue (.object members) =
      .record (namedValues (collect (members.map fun m => (m.1, toValue m.2)))) := by
  rw [toValue, insertMembers_eq]
  rfl

end Documents

end Json

end ViewLayers
