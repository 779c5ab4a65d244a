import ViewLayers.Resolve
import ViewLayers.Proofs.Overlay

/-!
# Appending collections

A record takes the items of a list under numbers above all that it uses, so they come behind
its entries and replace none. Putting one record on another replaces values where the keys
meet and brings the new keys behind the old ones; this also holds when the lower record is a
numbered list, whose places are then keys like any other.
-/

namespace ViewLayers

namespace Value

theorem beq_int_iff {v : Value} {n : Int} : (v == Value.int n) = true ↔ v = Value.int n := by
  rw [beq_iff_canonical]
  cases v <;> simp [canonical]

theorem int_beq_int_of_ne {m n : Int} (h : m ≠ n) : (Value.int m == Value.int n) = false := by
  rw [Bool.eq_false_iff, ne_eq, beq_int_iff, Value.int.injEq]
  exact h

@[simp] theorem index?_int (n : Nat) : (Value.int n).index? = some n := by
  simp [index?]

end Value

section Numbered

@[simp] theorem length_indexedFrom (start : Nat) (items : List Value) :
    (indexedFrom start items).length = items.length := by
  induction items generalizing start with
  | nil => rfl
  | cons v vs ih => simp only [indexedFrom, List.length_cons, ih]

theorem indexedFrom_append (start : Nat) (items more : List Value) :
    indexedFrom start (items ++ more) =
      indexedFrom start items ++ indexedFrom (start + items.length) more := by
  induction items generalizing start with
  | nil => rfl
  | cons v vs ih =>
    have hstart : start + 1 + vs.length = start + (vs.length + 1) := by omega
    simp only [List.cons_append, indexedFrom, ih, List.length_cons, hstart]

theorem exists_of_mem_indexedFrom {start : Nat} {items : List Value} {e : Value × Value}
    (h : e ∈ indexedFrom start items) :
    ∃ i, start ≤ i ∧ i < start + items.length ∧ e.1 = .int i := by
  induction items generalizing start with
  | nil => simp at h
  | cons v vs ih =>
    rcases List.mem_cons.1 h with rfl | hrest
    · exact ⟨start, Nat.le_refl start, by simp, rfl⟩
    · obtain ⟨i, hle, hlt, hkey⟩ := ih hrest
      refine ⟨i, by omega, ?_, hkey⟩
      rw [List.length_cons]
      omega

theorem get?_indexedFrom (start : Nat) (items : List Value) (i : Nat) :
    Entries.get? (indexedFrom start items) (.int i) =
      if start ≤ i then items[i - start]? else none := by
  induction items generalizing start with
  | nil => simp
  | cons v vs ih =>
    by_cases heq : start = i
    · subst heq
      simp
    · have hne : (Value.int start == Value.int i) = false := Value.int_beq_int_of_ne (by omega)
      simp only [indexedFrom, Entries.get?, hne, Bool.false_eq_true, ↓reduceIte, ih]
      by_cases hle : start ≤ i
      · have hsucc : i - start = (i - (start + 1)) + 1 := by omega
        rw [if_pos (by omega), if_pos hle, hsucc, List.getElem?_cons_succ]
      · rw [if_neg (by omega), if_neg hle]

end Numbered

namespace Record

section Items

theorem lt_nextIndex {r : Record} {e : Value × Value} {n : Nat} (he : e ∈ r)
    (hn : e.1.index? = some n) : n < r.nextIndex := by
  have hmem : n ∈ r.filterMap fun e => e.1.index? := List.mem_filterMap.2 ⟨e, he, hn⟩
  rw [nextIndex]
  cases hmax : (r.filterMap fun e => e.1.index?).max? with
  | none => simp [List.max?_eq_none_iff.1 hmax] at hmem
  | some m =>
    have hle : n ≤ m := (List.max?_eq_some_iff.1 hmax).2 n hmem
    simpa using Nat.lt_succ_of_le hle

/-- Numbers from the next index on are free, whatever else the keys are. -/
theorem get?_int_of_nextIndex_le (r : Record) {n : Nat} (h : r.nextIndex ≤ n) :
    Entries.get? r (.int n) = none := by
  rw [Entries.get?_eq_none_iff]
  intro e he
  rw [Bool.eq_false_iff, ne_eq, Value.beq_int_iff]
  intro hkey
  have hlt : n < r.nextIndex := lt_nextIndex he (hkey ▸ Value.index?_int n)
  omega

theorem putIndexed_eq_append {r : Record} {start : Nat} (items : List Value)
    (h : ∀ n : Nat, start ≤ n → Entries.get? r (.int n) = none) :
    r.putIndexed start items = r ++ indexedFrom start items := by
  induction items generalizing r start with
  | nil => simp
  | cons v vs ih =>
    -- The number just used lies below those that follow, so they are still free.
    have hfree : ∀ n : Nat, start + 1 ≤ n →
        Entries.get? (r ++ [(Value.int start, v)]) (.int n) = none := by
      intro n hn
      have hne : (Value.int start == Value.int n) = false := Value.int_beq_int_of_ne (by omega)
      rw [Entries.get?_append, h n (by omega), Option.none_or]
      simp only [Entries.get?, hne, Bool.false_eq_true, ↓reduceIte]
    rw [putIndexed, Entries.put_of_get?_eq_none v (h start (Nat.le_refl start)), ih hfree,
      indexedFrom, List.append_assoc, List.singleton_append]

theorem appendItems_eq_append (r : Record) (items : List Value) :
    r.appendItems items = r ++ indexedFrom r.nextIndex items :=
  putIndexed_eq_append items fun _ h => r.get?_int_of_nextIndex_le h

theorem news_indexedFrom {r : Record} {start : Nat} {items : List Value}
    (h : ∀ i : Nat, start ≤ i → i < start + items.length → Entries.has r (.int i) = false) :
    news r (indexedFrom start items) = indexedFrom start items := by
  refine List.filter_eq_self.2 fun e he => ?_
  obtain ⟨i, hle, hlt, hkey⟩ := exists_of_mem_indexedFrom he
  rw [hkey, h i hle hlt, Bool.not_false]

@[simp] theorem nil_appendItems (items : List Value) : appendItems [] items = indexedFrom 0 items :=
  appendItems_eq_append [] items

end Items

section Records

theorem putAll_cons (r : Record) (e : Value × Value) (more : Record) :
    putAll r (e :: more) = putAll (Entries.put r e.1 e.2) more := rfl

theorem get?_putAll (r : Record) {more : Record} (h : Entries.Distinct more) (k : Value) :
    Entries.get? (putAll r more) k = (Entries.get? more k).or (Entries.get? r k) := by
  induction more generalizing r with
  | nil => rfl
  | cons e rest ih =>
    rw [putAll_cons, ih _ h.of_cons]
    by_cases hk : (e.1 == k) = true
    -- No later entry has the key again, so the value just put stays.
    · have hrest : Entries.get? rest k = none := by
        rw [← Entries.get?_congr rest hk, h.get?_tail_eq_none]
      rw [hrest, Option.none_or, ← Entries.get?_congr _ hk, Entries.get?_put_self]
      simp only [Entries.get?, hk, ↓reduceIte, Option.some_or]
    · rw [Bool.not_eq_true] at hk
      rw [Entries.get?_put_of_ne r e.2 hk]
      simp only [Entries.get?, hk, Bool.false_eq_true, ↓reduceIte]

theorem keys_putAll (r : Record) {more : Record} (h : Entries.Distinct more) :
    (putAll r more).keys = r.keys ++ (news r more).keys := by
  induction more generalizing r with
  | nil => exact (List.append_nil _).symm
  | cons e rest ih =>
    have hrest : ∀ f ∈ rest, (e.1 == f.1) = false := fun f hf => List.rel_of_pairwise_cons h hf
    -- The key just put is none of those that follow, so they see the record as it was.
    have hnews : news (Entries.put r e.1 e.2) rest = news r rest := by
      refine List.filter_congr fun f hf => ?_
      rw [Entries.has_put, hrest f hf, Bool.or_false]
    rw [putAll_cons, ih _ h.of_cons, hnews]
    cases hk : Entries.has r e.1 with
    | true =>
      simp only [Entries.keys_put_of_has e.2 hk, news, List.filter_cons, hk, Bool.not_true,
        Bool.false_eq_true, ↓reduceIte]
    | false =>
      have hnone : Entries.get? r e.1 = none := by simpa [Entries.has_eq_isSome_get?] using hk
      simp only [Entries.put_of_get?_eq_none e.2 hnone, Entries.keys, news, List.filter_cons, hk,
        Bool.not_false, ↓reduceIte, List.map_append, List.map_cons, List.map_nil,
        List.append_assoc, List.cons_append, List.nil_append]

theorem distinct_putAll {r : Record} (hr : Entries.Distinct r) (more : Record) :
    Entries.Distinct (putAll r more) := hr.foldl_put more

theorem length_putAll (r : Record) {more : Record} (h : Entries.Distinct more) :
    (putAll r more).length = r.length + (news r more).length := by
  simpa [Entries.keys] using congrArg List.length (keys_putAll r h)

theorem length_putAll_eq_add_iff (r : Record) {more : Record} (h : Entries.Distinct more) :
    (putAll r more).length = r.length + more.length ↔ news r more = more := by
  rw [length_putAll r h, Nat.add_left_cancel_iff, news, List.length_filter_eq_length_iff,
    List.filter_eq_self]

theorem putAll_eq_append {r more : Record} (h : Entries.Distinct more) (hnew : news r more = more) :
    putAll r more = r ++ more := by
  induction more generalizing r with
  | nil => exact (List.append_nil r).symm
  | cons e rest ih =>
    have hfresh : ∀ f ∈ e :: rest, Entries.has r f.1 = false := by
      simpa [news, List.filter_eq_self] using hnew
    have hnone : Entries.get? r e.1 = none := by
      simpa [Entries.has_eq_isSome_get?] using hfresh e List.mem_cons_self
    have hrest : news (Entries.put r e.1 e.2) rest = rest := by
      refine List.filter_eq_self.2 fun f hf => ?_
      rw [Entries.has_put, hfresh f (List.mem_cons_of_mem e hf), List.rel_of_pairwise_cons h hf]
      rfl
    rw [putAll_cons, ih h.of_cons hrest, Entries.put_of_get?_eq_none e.2 hnone, List.append_assoc,
      List.singleton_append]

end Records

end Record

end ViewLayers
