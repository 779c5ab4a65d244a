import ViewLayers.Proofs.Entries
import ViewLayers.Value.Key

/-!
# Paths into values

A path of keys leads into a record through the records under the keys. Paths tell a record's
nested parts apart without a walk over the record, so that a statement about every depth is a
statement about every path.
-/

namespace ViewLayers.Value

/-- The value that a path of keys leads to. A path goes only through records without tags. -/
def at? : Value → List Value → Option Value
  | v, [] => some v
  | .record r, k :: path => (Entries.get? r k).bind fun v => at? v path
  | _, _ :: _ => none

/-- Something other than a record stands on the way, before the end of the path. -/
def Blocks (v : Value) (path : List Value) : Prop :=
  ∃ front rest, path = front ++ rest ∧ rest ≠ [] ∧
    ∃ w, v.at? front = some w ∧ ∀ r, w ≠ .record r

/-- Every record that a path leads to has each of its keys once. -/
def Keyed (v : Value) : Prop := ∀ path r, v.at? path = some (.record r) → Entries.Distinct r

@[simp] theorem at?_nil (v : Value) : v.at? [] = some v := by
  cases v <;> rfl

@[simp] theorem at?_record_cons (r : Record) (k : Value) (path : List Value) :
    (record r).at? (k :: path) = (Entries.get? r k).bind fun v => v.at? path := rfl

theorem record_or_ne_record (v : Value) : (∃ r, v = .record r) ∨ ∀ r, v ≠ .record r := by
  cases v with
  | record r => exact .inl ⟨r, rfl⟩
  | _ => exact .inr fun r => Value.noConfusion

section NotRecord

variable {v w : Value} (h : ∀ r, v ≠ .record r)
include h

theorem at?_cons_of_ne_record (k : Value) (path : List Value) : v.at? (k :: path) = none := by
  cases v with
  | record r => exact absurd rfl (h r)
  | _ => rfl

theorem blocks_cons_of_ne_record (k : Value) (path : List Value) : v.Blocks (k :: path) :=
  ⟨[], k :: path, rfl, List.cons_ne_nil k path, v, v.at?_nil, h⟩

@[simp] theorem keyed_of_ne_record : v.Keyed := by
  intro path r hr
  cases path with
  | nil =>
    rw [at?_nil, Option.some.injEq] at hr
    exact absurd hr (h r)
  | cons k rest =>
    rw [at?_cons_of_ne_record h] at hr
    cases hr

end NotRecord

theorem not_blocks_nil (v : Value) : ¬ v.Blocks [] := by
  rintro ⟨front, rest, hpath, hrest, -⟩
  exact hrest (List.append_eq_nil_iff.1 hpath.symm).2

theorem blocks_record_cons_iff {r : Record} {k : Value} {path : List Value} :
    (record r).Blocks (k :: path) ↔ ∃ v, Entries.get? r k = some v ∧ v.Blocks path := by
  constructor
  · rintro ⟨front, rest, hpath, hrest, w, hw, hne⟩
    cases front with
    | nil =>
      rw [at?_nil, Option.some.injEq] at hw
      exact absurd hw.symm (hne r)
    | cons l front =>
      rw [List.cons_append, List.cons.injEq] at hpath
      obtain ⟨rfl, rfl⟩ := hpath
      obtain ⟨v, hv, hw⟩ := Option.bind_eq_some_iff.1 hw
      exact ⟨v, hv, front, rest, rfl, hrest, w, hw, hne⟩
  · rintro ⟨v, hv, front, rest, rfl, hrest, w, hw, hne⟩
    refine ⟨k :: front, rest, rfl, hrest, w, ?_, hne⟩
    rw [at?_record_cons, hv]
    exact hw

theorem keyed_record_iff {r : Record} :
    (record r).Keyed ↔ Entries.Distinct r ∧ ∀ e ∈ r, e.2.Keyed := by
  constructor
  · intro h
    have hdistinct : Entries.Distinct r := h [] r (at?_nil _)
    refine ⟨hdistinct, fun e he path s hs => h (e.1 :: path) s ?_⟩
    rw [at?_record_cons, hdistinct.get?_eq_some_of_mem he]
    exact hs
  · rintro ⟨hdistinct, hvalues⟩ path s hs
    cases path with
    | nil =>
      rw [at?_nil, Option.some.injEq, record.injEq] at hs
      exact hs ▸ hdistinct
    | cons k path =>
      obtain ⟨v, hv, hs⟩ := Option.bind_eq_some_iff.1 hs
      obtain ⟨e, he, -, rfl⟩ := Entries.exists_mem_of_get? hv
      exact hvalues e he path s hs

theorem keyed_of_flat {r : Record} (hd : Entries.Distinct r)
    (h : ∀ e ∈ r, ∀ s, e.2 ≠ .record s) : (record r).Keyed :=
  keyed_record_iff.2 ⟨hd, fun e he => keyed_of_ne_record (h e he)⟩

theorem at?_eq_none_of_blocks {w : Value} {path : List Value} (h : w.Blocks path) :
    w.at? path = none := by
  induction path generalizing w with
  | nil => exact absurd h (not_blocks_nil w)
  | cons k path ih =>
    obtain ⟨s, rfl⟩ | hw := w.record_or_ne_record
    · obtain ⟨above, hs, hb⟩ := blocks_record_cons_iff.1 h
      rw [at?_record_cons, hs]
      exact ih hb
    · exact at?_cons_of_ne_record hw k path

theorem not_blocks_of_at? {w v : Value} {path : List Value} (h : w.at? path = some v) :
    ¬ w.Blocks path := by
  intro hb
  rw [at?_eq_none_of_blocks hb] at h
  cases h

end ViewLayers.Value

namespace ViewLayers.Record

def at? (r : Record) (path : List Value) : Option Value := (Value.record r).at? path

def Keyed (r : Record) : Prop := (Value.record r).Keyed

def Blocks (r : Record) (path : List Value) : Prop :=
  ∃ front rest, path = front ++ rest ∧ front ≠ [] ∧ rest ≠ [] ∧
    ∃ w, r.at? front = some w ∧ ∀ s, w ≠ .record s

theorem blocks_iff {r : Record} {path : List Value} :
    r.Blocks path ↔ (Value.record r).Blocks path := by
  constructor
  · rintro ⟨front, rest, hpath, -, hrest, hw⟩
    exact ⟨front, rest, hpath, hrest, hw⟩
  · rintro ⟨front, rest, hpath, hrest, w, hw, hne⟩
    refine ⟨front, rest, hpath, ?_, hrest, w, hw, hne⟩
    rintro rfl
    rw [Value.at?_nil, Option.some.injEq] at hw
    exact hne r hw.symm

end ViewLayers.Record

/-- A record as documents have it: no key comes twice in it or in a record within. -/
structure ViewLayers.KeyedRecord where
  entries : Record
  keyed : entries.Keyed
