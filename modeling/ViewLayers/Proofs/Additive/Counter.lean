import ViewLayers.Proofs.Additive.Append

/-!
# Numbers of 64 bits

The items that a record takes stand under numbers of 64 bits, which a counter gives out. It goes
one further behind every item, so behind the last item too there must be a number left. Where there
is, appending only adds: the record stays as it was, and behind it come the items under numbers that
were no keys of it. Where there is none, there is no result, and no procedure for the whole tree.
-/

namespace ViewLayers

theorem Value.index?_eq_some_iff {v : Value} {n : Nat} :
    v.index? = some n ↔ v.untagged = .int n := by
  rw [index?]
  cases v.untagged with
  | int m =>
    rw [Value.int.injEq]
    by_cases hm : m < 0
    · simp only [hm, ↓reduceIte, reduceCtorEq, false_iff]
      omega
    · simp only [hm, ↓reduceIte, Option.some.injEq]
      omega
  | _ => simp only [reduceCtorEq]

theorem indexedFrom_eq_map_zipIdx (start : Nat) (items : List Value) :
    indexedFrom start items = (items.zipIdx start).map fun item => (.int item.2, item.1) := by
  induction items generalizing start with
  | nil => rfl
  | cons v vs ih => rw [indexedFrom, ih, List.zipIdx_cons, List.map_cons]

namespace Record

def HasNumber (r : Record) (n : Nat) : Prop := ∃ e ∈ r, e.1.untagged = .int n

/-- The next number: one above the highest, and zero where there is none. -/
def IsNextNumber (r : Record) (start : Nat) : Prop :=
  (∀ n, r.HasNumber n → n < start) ∧ (start = 0 ∨ ∃ n, r.HasNumber n ∧ start = n + 1)

/-- So many numbers of 64 bits, and one more, are left above those of the record. -/
structure HasRoom (r : Record) (count : Nat) : Prop where
  count_lt : count < UInt64.size
  number_add_lt : ∀ n, r.HasNumber n → n + count + 1 < UInt64.size

section Next

theorem isNextNumber_nextIndex (r : Record) : r.IsNextNumber r.nextIndex := by
  refine ⟨fun n ⟨e, he, hn⟩ => lt_nextIndex he (Value.index?_eq_some_iff.2 hn), ?_⟩
  rw [nextIndex]
  cases hmax : (r.filterMap fun e => e.1.index?).max? with
  | none => exact .inl rfl
  | some top =>
    obtain ⟨e, he, htop⟩ := List.mem_filterMap.1 (List.max?_eq_some_iff.1 hmax).1
    exact .inr ⟨top, ⟨e, he, Value.index?_eq_some_iff.1 htop⟩, rfl⟩

theorem hasRoom_iff {r : Record} {count : Nat} :
    r.HasRoom count ↔ r.nextIndex + count < UInt64.size := by
  obtain ⟨hlt, hnext⟩ := r.isNextNumber_nextIndex
  constructor
  · intro h
    rcases hnext with hzero | ⟨n, hn, hsucc⟩
    · have hcount := h.count_lt
      omega
    · have htop := h.number_add_lt n hn
      omega
  · intro h
    refine ⟨by omega, fun n hn => ?_⟩
    have hn := hlt n hn
    omega

end Next

section Counted

theorem counter?_eq_some_iff {n : Nat} {c : UInt64} : counter? n = some c ↔ c.toNat = n := by
  rw [counter?]
  split
  · rename_i h
    rw [Option.some.injEq, ← UInt64.toNat_inj, UInt64.toNat_ofNatLT, eq_comm]
  · rename_i h
    refine ⟨nofun, fun hc => absurd ?_ h⟩
    exact hc ▸ c.toNat_lt_size

theorem counter?_eq_none_iff {n : Nat} : counter? n = none ↔ UInt64.size ≤ n := by
  rw [counter?]
  split <;> simp <;> omega

theorem putCounted?_eq_some_iff {r whole : Record} {next : UInt64} {items : List Value} :
    r.putCounted? next items = some whole ↔
      next.toNat + items.length < UInt64.size ∧ whole = r.putIndexed next.toNat items := by
  induction items generalizing r next with
  | nil =>
    have hnext := next.toNat_lt_size
    simp [putCounted?, hnext, eq_comm]
  | cons v vs ih =>
    rw [putCounted?, List.length_cons, putIndexed]
    cases hfollowing : counter? (next.toNat + 1) with
    | none =>
      have hlast := counter?_eq_none_iff.1 hfollowing
      refine ⟨nofun, fun ⟨hlt, _⟩ => ?_⟩
      omega
    | some following =>
      have hsucc := counter?_eq_some_iff.1 hfollowing
      refine ih.trans ?_
      rw [hsucc, Nat.add_right_comm, Nat.add_assoc]

theorem appendItems?_eq_some_iff {r whole : Record} {items : List Value} :
    r.appendItems? items = some whole ↔
      r.HasRoom items.length ∧ whole = r.appendItems items := by
  rw [appendItems?, appendItems, hasRoom_iff]
  cases hstart : counter? r.nextIndex with
  | none =>
    have hlast := counter?_eq_none_iff.1 hstart
    refine ⟨nofun, fun ⟨hlt, _⟩ => ?_⟩
    omega
  | some start =>
    rw [← counter?_eq_some_iff.1 hstart]
    exact putCounted?_eq_some_iff

end Counted

section Continued

/-- A record as it was, and behind it the items of a list under numbers from `start` on that
were no keys of the record. -/
structure Continues (r : Record) (items : List Value) (start : Nat) (whole : Record) : Prop where
  append_eq : whole = r ++ (items.zipIdx start).map fun item => (.int item.2, item.1)
  has_eq_false : ∀ i < items.length, Entries.has r (.int ↑(start + i)) = false
  get?_kept : ∀ k, Entries.has r k = true → Entries.get? whole k = Entries.get? r k
  get?_item : ∀ i < items.length, Entries.get? whole (.int ↑(start + i)) = items[i]?
  distinct : Entries.Distinct r → Entries.Distinct whole
  length_eq : whole.length = r.length + items.length

theorem distinct_putIndexed {r : Record} (h : Entries.Distinct r) (start : Nat)
    (items : List Value) : Entries.Distinct (r.putIndexed start items) := by
  induction items generalizing r start with
  | nil => exact h
  | cons v vs ih => exact ih (h.put (.int start) v) (start + 1)

theorem continues_putIndexed {r : Record} {start : Nat} (items : List Value)
    (hfree : ∀ n : Nat, start ≤ n → Entries.get? r (.int n) = none) :
    r.Continues items start (r.putIndexed start items) where
  append_eq := by rw [putIndexed_eq_append items hfree, indexedFrom_eq_map_zipIdx]
  has_eq_false := by
    intro i _
    rw [Entries.has_eq_isSome_get?, hfree _ (Nat.le_add_right start i), Option.isSome_none]
  get?_kept := by
    intro k hk
    rw [Entries.has_eq_isSome_get?, Option.isSome_iff_exists] at hk
    obtain ⟨v, hv⟩ := hk
    rw [putIndexed_eq_append items hfree, Entries.get?_append, hv, Option.some_or]
  get?_item := by
    intro i _
    have hle : start ≤ start + i := Nat.le_add_right start i
    rw [putIndexed_eq_append items hfree, Entries.get?_append, hfree _ hle, Option.none_or,
      get?_indexedFrom, if_pos hle, Nat.add_sub_cancel_left]
  distinct := fun h => distinct_putIndexed h start items
  length_eq := by rw [putIndexed_eq_append items hfree, List.length_append, length_indexedFrom]

end Continued

/-- Where there is room, appending items only adds: the counter gets through, and the items come
behind the record under the next numbers, all of them new to it. -/
theorem exists_continues_appendItems (r : Record) (items : List Value)
    (hroom : r.HasRoom items.length) :
    ∃ start whole, r.appendItems? items = some whole ∧ r.IsNextNumber start ∧
      start + items.length < UInt64.size ∧ r.Continues items start whole := by
  refine ⟨r.nextIndex, r.appendItems items, appendItems?_eq_some_iff.2 ⟨hroom, rfl⟩,
    r.isNextNumber_nextIndex, hasRoom_iff.1 hroom, ?_⟩
  exact continues_putIndexed items fun _ h => r.get?_int_of_nextIndex_le h

def keysOfAllKinds : Record :=
  [(.string "18446744073709551615", .string "a"), (.int (-1), .string "b"), (.int 5, .null),
    (.tagged "t" (.tagged "u" (.int 18446744073709551612)), .string "c"),
    (.float Binary64.zero, .bool true), (.list [.int 7], .null),
    (.record [(.int 8, .null)], .string "d"), (.null, .string "e")]

theorem exists_continues_keysOfAllKinds :
    keysOfAllKinds.HasRoom 2 ∧
      ∃ whole, keysOfAllKinds.appendItems? [.string "x", .null] = some whole ∧
        keysOfAllKinds.Continues [.string "x", .null] (UInt64.size - 3) whole := by
  have hroom : keysOfAllKinds.HasRoom 2 := hasRoom_iff.2 (by decide +kernel)
  have htop : keysOfAllKinds.HasNumber 18446744073709551612 := by
    refine ⟨(.tagged "t" (.tagged "u" (.int 18446744073709551612)), .string "c"), ?_, rfl⟩
    simp [keysOfAllKinds]
  obtain ⟨start, whole, hwhole, hnext, hlt, hcontinues⟩ :=
    exists_continues_appendItems keysOfAllKinds [.string "x", .null] hroom
  have hstart : start = UInt64.size - 3 := by
    have htop := hnext.1 _ htop
    have hlt : start + 2 < UInt64.size := hlt
    rw [UInt64.size] at hlt ⊢
    omega
  exact ⟨hroom, whole, hwhole, hstart ▸ hcontinues⟩

def keyBeforeLast : Record := [(.int 18446744073709551614, .string "a")]

/-- There is a number for the one item, but none behind it. -/
theorem appendItems?_keyBeforeLast :
    keyBeforeLast.HasNumber 18446744073709551614 ∧
      (∀ n, keyBeforeLast.HasNumber n → n + [Value.string "b"].length < UInt64.size) ∧
      ¬ ∃ start whole, keyBeforeLast.appendItems? [.string "b"] = some whole ∧
        keyBeforeLast.IsNextNumber start ∧
        keyBeforeLast.Continues [.string "b"] start whole := by
  have hnumber : ∀ n, keyBeforeLast.HasNumber n → n = 18446744073709551614 := by
    rintro n ⟨e, he, hn⟩
    rw [List.mem_singleton.1 he] at hn
    cases hn
    rfl
  have htop : keyBeforeLast.HasNumber 18446744073709551614 :=
    ⟨_, List.mem_singleton_self _, rfl⟩
  refine ⟨htop, fun n hn => ?_, fun ⟨start, whole, hwhole, _⟩ => ?_⟩
  · rw [hnumber n hn]
    decide
  · have hroom := (appendItems?_eq_some_iff.1 hwhole).1.number_add_lt _ htop
    rw [UInt64.size, List.length_singleton] at hroom
    omega

end Record

end ViewLayers
