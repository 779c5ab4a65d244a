import ViewLayers.Entries

/-!
# Looking up entries

What a look-up finds after each operation on entries. Keys are compared by `==`, which need
not be equality, so every law that moves a key first says that the look-up does not see which
of several like keys was asked for.
-/

namespace ViewLayers.Entries

variable {κ β γ : Type} [BEq κ]

theorem get?_congr [EquivBEq κ] (es : Entries κ β) {k l : κ} (h : (k == l) = true) :
    get? es k = get? es l := by
  induction es with
  | nil => rfl
  | cons e rest ih =>
    have hkey : (e.1 == k) = (e.1 == l) := BEq.congr_right h
    simp only [get?, hkey, ih]

@[simp] theorem get?_append (es fs : Entries κ β) (k : κ) :
    get? (es ++ fs) k = (get? es k).or (get? fs k) := by
  induction es with
  | nil => rfl
  | cons e rest ih =>
    by_cases h : (e.1 == k) = true
    · simp [h]
    · simp only [List.cons_append, get?, h, ↓reduceIte, ih, Bool.false_eq_true]

theorem get?_put_of_ne [EquivBEq κ] (es : Entries κ β) {k l : κ} (v : β)
    (h : (k == l) = false) : get? (put es k v) l = get? es l := by
  induction es with
  | nil => simp [h]
  | cons e rest ih =>
    by_cases hk : (e.1 == k) = true
    · have hl : (e.1 == l) = false := by rw [BEq.congr_left hk]; exact h
      simp [hk, hl]
    · simp only [put, hk, ↓reduceIte, get?, ih, Bool.false_eq_true]

@[simp] theorem get?_map_value (es : Entries κ β) (f : β → γ) (k : κ) :
    get? (es.map fun e => (e.1, f e.2)) k = (get? es k).map f := by
  induction es with
  | nil => rfl
  | cons e rest ih =>
    by_cases h : (e.1 == k) = true
    · simp [h]
    · simp only [List.map_cons, get?, h, ↓reduceIte, ih, Bool.false_eq_true]

theorem get?_filter_key (es : Entries κ β) (p : κ → Bool) (k : κ)
    (hp : ∀ l, (l == k) = true → p l = p k) :
    get? (es.filter fun e => p e.1) k = if p k then get? es k else none := by
  induction es with
  | nil => simp
  | cons e rest ih =>
    by_cases he : p e.1 = true
    · by_cases h : (e.1 == k) = true
      · have hk : p k = true := (hp e.1 h).symm.trans he
        simp [he, h, hk]
      · simp only [List.filter_cons, he, get?, h, ↓reduceIte, ih, Bool.false_eq_true]
    · by_cases h : (e.1 == k) = true
      · have hk : ¬ p k = true := fun h' => he ((hp e.1 h).trans h')
        simp only [List.filter_cons, he, ↓reduceIte, ih, hk, Bool.false_eq_true]
      · simp only [List.filter_cons, he, get?, h, ↓reduceIte, ih, Bool.false_eq_true]

@[simp] theorem get?_without_self [EquivBEq κ] (es : Entries κ β) (k : κ) :
    get? (without es k) k = none := by
  have hp : ∀ l, (l == k) = true → (!(l == k)) = (!(k == k)) := by
    intro l hl
    rw [hl, BEq.rfl]
  rw [without, get?_filter_key es (fun l => !(l == k)) k hp]
  simp

theorem get?_without_of_ne [EquivBEq κ] (es : Entries κ β) {k l : κ} (h : (k == l) = false) :
    get? (without es k) l = get? es l := by
  have hl : (l == k) = false := by rw [BEq.comm]; exact h
  have hp : ∀ m, (m == l) = true → (!(m == k)) = (!(l == k)) := by
    intro m hm
    rw [BEq.congr_left hm]
  rw [without, get?_filter_key es (fun m => !(m == k)) l hp]
  simp [hl]

theorem has_congr [EquivBEq κ] (es : Entries κ β) {k l : κ} (h : (k == l) = true) :
    has es k = has es l := by
  rw [has_eq_isSome_get?, has_eq_isSome_get?, get?_congr es h]

theorem put_of_get?_eq_some {es : Entries κ β} {k : κ} {v : β} (h : get? es k = some v) :
    put es k v = es := by
  induction es with
  | nil => simp at h
  | cons e rest ih =>
    obtain ⟨l, w⟩ := e
    by_cases hk : (l == k) = true
    · simp only [get?, hk, ↓reduceIte, Option.some.injEq] at h
      simp only [put, hk, ↓reduceIte, h]
    · simp only [get?, hk, ↓reduceIte, Bool.false_eq_true] at h
      simp only [put, hk, ↓reduceIte, Bool.false_eq_true, ih h]

theorem beq_eq_false_of_get?_eq_none {es : Entries κ β} {k : κ} (h : get? es k = none)
    {e : κ × β} (he : e ∈ es) : (e.1 == k) = false := by
  have hk : has es k = false := by rw [has_eq_isSome_get?, h, Option.isSome_none]
  simpa using List.any_eq_false.1 hk e he

theorem without_of_get?_eq_none {es : Entries κ β} {k : κ} (h : get? es k = none) :
    without es k = es := by
  rw [without, List.filter_eq_self]
  intro e he
  rw [beq_eq_false_of_get?_eq_none h he, Bool.not_false]

theorem without_put_of_ne [EquivBEq κ] (es : Entries κ β) {k l : κ} (v : β)
    (h : (k == l) = false) : without (put es k v) l = put (without es l) k v := by
  induction es with
  | nil => simp [without, h]
  | cons e rest ih =>
    by_cases hk : (e.1 == k) = true
    · have hl : (e.1 == l) = false := by rw [BEq.congr_left hk]; exact h
      simp [without, hk, hl]
    · by_cases hl : (e.1 == l) = true
      · simpa [without, hk, hl] using ih
      · simpa [without, hk, hl] using ih

theorem without_comm (es : Entries κ β) (k l : κ) :
    without (without es k) l = without (without es l) k := by
  simp only [without, List.filter_filter, Bool.and_comm]

theorem map_value_put (es : Entries κ β) (f : β → γ) (k : κ) (v : β) :
    (put es k v).map (fun e => (e.1, f e.2)) = put (es.map fun e => (e.1, f e.2)) k (f v) := by
  induction es with
  | nil => rfl
  | cons e rest ih =>
    by_cases h : (e.1 == k) = true
    · simp [h]
    · simp [h, ih]

theorem without_map (es : Entries κ β) (f : κ × β → κ × γ) (hf : ∀ e, (f e).1 = e.1) (k : κ) :
    without (es.map f) k = (without es k).map f := by
  simp only [without, List.filter_map, Function.comp_def, hf]

@[simp] theorem has_put [EquivBEq κ] (es : Entries κ β) (k : κ) (v : β) (l : κ) :
    has (put es k v) l = (has es l || k == l) := by
  rw [has_eq_isSome_get?, has_eq_isSome_get?]
  cases h : k == l with
  | true => rw [← get?_congr _ h, get?_put_self, Option.isSome_some, Bool.or_true]
  | false => rw [get?_put_of_ne es v h, Bool.or_false]

theorem keys_put_of_has {es : Entries κ β} {k : κ} (v : β) (h : has es k = true) :
    keys (put es k v) = keys es := by
  induction es with
  | nil => simp [has] at h
  | cons e rest ih =>
    by_cases hk : (e.1 == k) = true
    · simp [keys, hk]
    · simp only [Bool.not_eq_true] at hk
      have hrest : has rest k = true := by simpa [has, hk] using h
      simpa [keys, hk] using ih hrest

omit [BEq κ] in
@[simp] theorem keys_append (es fs : Entries κ β) : keys (es ++ fs) = keys es ++ keys fs :=
  List.map_append

omit [BEq κ] in
@[simp] theorem keys_map_value (es : Entries κ β) (f : κ × β → γ) :
    keys (es.map fun e => (e.1, f e)) = keys es := by
  rw [keys, keys, List.map_map]
  rfl

omit [BEq κ] in
theorem keys_filter_key (es : Entries κ β) (p : κ → Bool) :
    keys (es.filter fun e => p e.1) = (keys es).filter p := by
  rw [keys, keys, List.filter_map]
  rfl

theorem has_eq_any_keys (es : Entries κ β) (k : κ) : has es k = (keys es).any (· == k) := by
  rw [has, keys, List.any_map]
  rfl

theorem mem_keys_iff [LawfulBEq κ] {es : Entries κ β} {k : κ} : k ∈ keys es ↔ has es k = true := by
  rw [has_eq_any_keys, List.any_eq_true]
  exact ⟨fun h => ⟨k, h, BEq.rfl⟩, fun ⟨_, hl, hlk⟩ => eq_of_beq hlk ▸ hl⟩

theorem keys_put (es : Entries κ β) (k : κ) (v : β) :
    keys (put es k v) = keys es ++ if has es k then [] else [k] := by
  cases h : has es k with
  | true => rw [keys_put_of_has v h, if_pos rfl, List.append_nil]
  | false =>
    have hnone : get? es k = none := by simpa [has_eq_isSome_get?] using h
    rw [put_of_get?_eq_none v hnone, keys_append, if_neg Bool.false_ne_true]
    rfl

@[simp] theorem contains_keys [LawfulBEq κ] (es : Entries κ β) (k : κ) :
    (keys es).contains k = has es k := by
  rw [Bool.eq_iff_iff, List.contains_iff_mem, mem_keys_iff]

theorem keys_foldl_put [LawfulBEq κ] (pairs es : Entries κ β) :
    keys (pairs.foldl (fun es e => put es e.1 e.2) es) =
      keys es ++ ((keys pairs).removeAll (keys es)).eraseDups := by
  induction pairs generalizing es with
  | nil => rw [List.foldl_nil, keys, keys, List.map_nil, List.nil_removeAll, List.eraseDups_nil,
      List.append_nil]
  | cons e rest ih =>
    have hcons : keys (e :: rest) = e.1 :: keys rest := rfl
    rw [List.foldl_cons, ih, keys_put, hcons, List.cons_removeAll, contains_keys]
    cases h : has es e.1 with
    | true => rw [if_pos rfl, List.append_nil, if_neg (by decide)]
    | false =>
      have hlater : (keys rest).removeAll (keys es ++ [e.1]) =
          ((keys rest).removeAll (keys es)).filter fun k => !(k == e.1) := by
        rw [List.removeAll, List.removeAll, List.filter_filter]
        refine List.filter_congr fun k _ => ?_
        rw [Bool.eq_iff_iff]
        simp [and_comm]
      rw [if_neg Bool.false_ne_true, if_pos rfl, List.eraseDups_cons, hlater, List.append_assoc,
        List.singleton_append]

theorem keys_ofPairs [LawfulBEq κ] (pairs : Entries κ β) :
    keys (ofPairs pairs) = (keys pairs).eraseDups := by
  have hall : (keys pairs).removeAll [] = keys pairs := List.filter_eq_self.2 fun _ _ => rfl
  rw [ofPairs, keys_foldl_put]
  exact congrArg List.eraseDups hall

@[simp] theorem keys_without (es : Entries κ β) (k : κ) :
    keys (without es k) = (keys es).filter fun l => !(l == k) :=
  keys_filter_key es fun l => !(l == k)

@[simp] theorem has_without [EquivBEq κ] (es : Entries κ β) (k l : κ) :
    has (without es k) l = (!(k == l) && has es l) := by
  rw [has_eq_isSome_get?, has_eq_isSome_get?]
  cases h : k == l with
  | true => rw [← get?_congr _ h, get?_without_self]; rfl
  | false => rw [get?_without_of_ne es h]; rfl

theorem get?_put [EquivBEq κ] (es : Entries κ β) (k : κ) (v : β) (l : κ) :
    get? (put es k v) l = if k == l then some v else get? es l := by
  cases h : k == l with
  | true => rw [if_pos rfl, ← get?_congr _ h, get?_put_self]
  | false => rw [if_neg Bool.false_ne_true, get?_put_of_ne es v h]

theorem get?_foldl_put [EquivBEq κ] (pairs es : Entries κ β) (k : κ) :
    get? (pairs.foldl (fun es e => put es e.1 e.2) es) k =
      ((pairs.filter fun e => e.1 == k).getLast?.map Prod.snd).or (get? es k) := by
  induction pairs generalizing es with
  | nil => rfl
  | cons e rest ih =>
    rw [List.foldl_cons, ih, get?_put, List.filter_cons]
    cases hk : e.1 == k with
    | true =>
      rw [if_pos rfl, if_pos rfl, List.getLast?_cons]
      cases (rest.filter fun e => e.1 == k).getLast? <;> rfl
    | false => rw [if_neg Bool.false_ne_true, if_neg Bool.false_ne_true]

theorem get?_ofPairs [EquivBEq κ] (pairs : Entries κ β) (k : κ) :
    get? (ofPairs pairs) k = (pairs.filter fun e => e.1 == k).getLast?.map Prod.snd := by
  rw [ofPairs, get?_foldl_put]
  exact Option.or_none

theorem get?_ofPairs_map [EquivBEq κ] {α : Type} (key : α → κ) (value : α → β) (items : List α)
    (k : κ) : get? (ofPairs (items.map fun a => (key a, value a))) k =
      (items.filter fun a => key a == k).getLast?.map value := by
  rw [get?_ofPairs, List.filter_map, List.getLast?_map, Option.map_map]
  rfl

theorem filter_key_put (es : Entries κ β) {k : κ} (v : β) (p : κ → Bool) (hk : p k = false)
    (hp : ∀ l, (l == k) = true → p l = false) :
    (put es k v).filter (fun e => p e.1) = es.filter fun e => p e.1 := by
  induction es with
  | nil => simp [hk]
  | cons e rest ih =>
    by_cases h : (e.1 == k) = true
    · have he := hp e.1 h
      simp [h, he]
    · simp only [put, h, Bool.false_eq_true, ↓reduceIte, List.filter_cons, ih]

section Distinct

instance (es : Entries κ β) : Decidable (Distinct es) :=
  inferInstanceAs (Decidable (es.Pairwise fun a b => (a.1 == b.1) = false))

theorem get?_eq_none_iff {es : Entries κ β} {k : κ} :
    get? es k = none ↔ ∀ e ∈ es, (e.1 == k) = false := by
  refine ⟨fun h e he => beq_eq_false_of_get?_eq_none h he, fun h => ?_⟩
  have hk : has es k = false := by simpa [has, List.any_eq_false] using h
  rwa [has_eq_isSome_get?, Option.isSome_eq_false_iff, Option.isNone_iff_eq_none] at hk

theorem exists_mem_of_get? {es : Entries κ β} {k : κ} {v : β} (h : get? es k = some v) :
    ∃ e ∈ es, (e.1 == k) = true ∧ e.2 = v := by
  induction es with
  | nil => cases h
  | cons e rest ih =>
    rw [get?] at h
    split at h
    · rename_i hkey
      cases h
      exact ⟨e, List.mem_cons_self, hkey, rfl⟩
    · obtain ⟨f, hf, hkey, hv⟩ := ih h
      exact ⟨f, List.mem_cons_of_mem _ hf, hkey, hv⟩

theorem mem_of_get? [LawfulBEq κ] {es : Entries κ β} {k : κ} {v : β} (h : get? es k = some v) :
    (k, v) ∈ es := by
  obtain ⟨e, he, hkey, rfl⟩ := exists_mem_of_get? h
  exact eq_of_beq hkey ▸ he

theorem Distinct.get?_tail_eq_none [EquivBEq κ] {e : κ × β} {rest : Entries κ β}
    (h : Distinct (e :: rest)) : get? rest e.1 = none := by
  rw [get?_eq_none_iff]
  intro f hf
  rw [BEq.comm]
  exact List.rel_of_pairwise_cons h hf

theorem Distinct.get?_eq_some_of_mem [EquivBEq κ] {es : Entries κ β} (h : Distinct es)
    {e : κ × β} (he : e ∈ es) : get? es e.1 = some e.2 := by
  induction es with
  | nil => cases he
  | cons first rest ih =>
    rcases List.mem_cons.1 he with rfl | hrest
    · simp
    · have hne : (first.1 == e.1) = false := List.rel_of_pairwise_cons h hrest
      simpa only [get?, hne, ↓reduceIte, Bool.false_eq_true] using ih h.of_cons hrest

theorem distinct_iff_pairwise_keys {es : Entries κ β} :
    Distinct es ↔ (keys es).Pairwise fun k l => (k == l) = false := by
  rw [keys, List.pairwise_map]
  rfl

theorem pairwise_keys_append_new [EquivBEq κ] {es fs : Entries κ β} (he : Distinct es)
    (hf : Distinct fs) :
    (keys es ++ (keys fs).filter fun k => !has es k).Pairwise fun k l => (k == l) = false := by
  rw [List.pairwise_append]
  refine ⟨distinct_iff_pairwise_keys.1 he, (distinct_iff_pairwise_keys.1 hf).filter _, ?_⟩
  intro k hk l hl
  have hnew : has es l = false := by simpa using (List.mem_filter.1 hl).2
  rw [has_eq_any_keys, List.any_eq_false] at hnew
  simpa using hnew k hk

theorem Distinct.put [EquivBEq κ] {es : Entries κ β} (h : Distinct es) (k : κ) (v : β) :
    Distinct (put es k v) := by
  rw [distinct_iff_pairwise_keys, keys_put]
  cases hk : has es k with
  | true =>
    rw [if_pos rfl, List.append_nil]
    exact distinct_iff_pairwise_keys.1 h
  | false =>
    rw [if_neg Bool.false_ne_true, List.pairwise_append]
    refine ⟨distinct_iff_pairwise_keys.1 h, List.pairwise_singleton _ _, ?_⟩
    rw [has_eq_any_keys, List.any_eq_false] at hk
    intro l hl m hm
    rw [List.mem_singleton.1 hm]
    simpa using hk l hl

theorem Distinct.foldl_put [EquivBEq κ] {es : Entries κ β} (h : Distinct es)
    (pairs : Entries κ β) : Distinct (pairs.foldl (fun es e => Entries.put es e.1 e.2) es) := by
  induction pairs generalizing es with
  | nil => exact h
  | cons e rest ih => exact ih (h.put e.1 e.2)

theorem distinct_ofPairs [EquivBEq κ] (pairs : Entries κ β) : Distinct (ofPairs pairs) :=
  Distinct.foldl_put .nil pairs

theorem foldl_put_of_distinct [EquivBEq κ] {es fs : Entries κ β} (h : Distinct (es ++ fs)) :
    fs.foldl (fun es e => put es e.1 e.2) es = es ++ fs := by
  induction fs generalizing es with
  | nil => exact (List.append_nil es).symm
  | cons f fs ih =>
    have hnew : get? es f.1 = none := by
      rw [get?_eq_none_iff]
      intro e he
      exact (List.pairwise_append.1 h).2.2 e he f List.mem_cons_self
    have hd : Distinct ((es ++ [f]) ++ fs) := by rwa [List.append_assoc]
    rw [List.foldl_cons, put_of_get?_eq_none f.2 hnew, ih hd, List.append_assoc]
    rfl

theorem Distinct.ofPairs_eq [EquivBEq κ] {es : Entries κ β} (h : Distinct es) :
    ofPairs es = es := @foldl_put_of_distinct _ _ _ _ [] es h

end Distinct

end ViewLayers.Entries
