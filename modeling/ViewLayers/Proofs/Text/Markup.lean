import ViewLayers.Text.Markup

/-!
# Characters of a page head

Escaping leaves no angle bracket and no quotation mark, and restoring the entities only takes
characters away.
-/

namespace ViewLayers.Text

def markupMarks : List Char := ['<', '>', '"', '\'']

theorem notMem_markupMarks_of_mem_entity {c d : Char} (h : d ∈ markupEntity c) :
    d ∉ markupMarks := by
  have hfree : ∀ entity ∈ ["&amp;", "&lt;", "&gt;", "&quot;", "&#039;"],
      (entity.toList.all fun d => !markupMarks.contains d) = true := by decide
  simp only [List.all_eq_true, Bool.not_eq_true', List.contains_eq_mem,
    decide_eq_false_iff_not] at hfree
  unfold markupEntity at h
  split at h
  case h_6 hlt hgt hquot hapos =>
    rw [List.mem_singleton] at h
    subst h
    simpa [markupMarks] using ⟨hlt, hgt, hquot, hapos⟩
  all_goals exact hfree _ (by simp) d h

theorem eq_of_entityTail? {s tail rest : List Char} (h : entityTail? s = some (tail, rest)) :
    s = tail ++ rest := by
  unfold entityTail? at h
  simp only at h
  split at h
  · rename_i w after hword hafter
    simp only [Option.some.injEq, Prod.mk.injEq] at h
    obtain ⟨rfl, rfl⟩ := h
    have hhash : (s.takeWhile (· = '#') |>.take 1) <+: s :=
      (List.take_prefix 1 _).trans (List.takeWhile_prefix _)
    have hsplit := List.prefix_iff_eq_append.1 hhash
    generalize (s.takeWhile (· = '#') |>.take 1) = hash at hword hafter hsplit ⊢
    have hbody : (s.drop hash.length).takeWhile isWord ++ ';' :: after = s.drop hash.length := by
      rw [← hafter, List.takeWhile_append_dropWhile]
    calc s = hash ++ s.drop hash.length := hsplit.symm
      _ = hash ++ ((s.drop hash.length).takeWhile isWord ++ ';' :: after) := by rw [hbody]
      _ = _ := by simp only [List.append_assoc, List.singleton_append]
  · simp at h

theorem mem_of_mem_restoreEntities {s : List Char} {c : Char} (h : c ∈ restoreEntities s) :
    c ∈ s := by
  fun_induction restoreEntities s with
  | case1 => exact h
  | case2 d rest hmark tail after htail ih =>
    have hdrop : rest.drop 4 = tail ++ after := eq_of_entityTail? htail
    have hrest : ∀ x ∈ tail ++ after, x ∈ rest := by
      intro x hx
      rw [← hdrop] at hx
      exact List.mem_of_mem_drop hx
    rw [hmark.1]
    rcases List.mem_cons.1 h with rfl | htailed
    · exact List.mem_cons_self
    · refine List.mem_cons_of_mem _ (hrest c ?_)
      rcases List.mem_append.1 htailed with hc | hc
      · exact List.mem_append_left after hc
      · exact List.mem_append_right tail (ih hc)
  | case3 d rest hmark htail ih =>
    rcases List.mem_cons.1 h with rfl | hc
    · exact List.mem_cons_self
    · exact List.mem_cons_of_mem d (ih hc)
  | case4 d rest hmark ih =>
    rcases List.mem_cons.1 h with rfl | hc
    · exact List.mem_cons_self
    · exact List.mem_cons_of_mem d (ih hc)

theorem notMem_markupMarks_of_mem_metaContent {s : String} {c : Char}
    (h : c ∈ (metaContent s).toList) : c ∉ markupMarks := by
  rw [metaContent, String.toList_ofList] at h
  obtain ⟨d, -, hd⟩ := List.mem_flatMap.1 (mem_of_mem_restoreEntities h)
  exact notMem_markupMarks_of_mem_entity hd

end ViewLayers.Text
