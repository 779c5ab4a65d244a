import ViewLayers.Proofs.Text.Markup

/-!
# Entities in a text

Escaping turns no character into a hash, a word character or a semicolon and leaves these as they
are, so what completes an entity in a text completes it in the escaped text and nothing else does.
Restoring the escaped ampersands therefore decides as one reading of the text decides, which looks
only at what stands behind each ampersand.
-/

namespace ViewLayers.Text

/-- What an entity has behind its ampersand: an optional hash, at least one word character and a
semicolon. -/
def EntityTail (tail : List Char) : Prop :=
  ∃ hash word, (hash = [] ∨ hash = ['#']) ∧ word ≠ [] ∧ (∀ c ∈ word, isWord c = true) ∧
    tail = hash ++ word ++ [';']

def CompletesEntity (s : List Char) : Prop := ∃ tail, EntityTail tail ∧ tail <+: s

section Characters

variable {c : Char}

theorem markupEntity_of_plain (hc : c ≠ '&') (hmarks : c ∉ markupMarks) : markupEntity c = [c] := by
  simp only [markupMarks, List.mem_cons, List.not_mem_nil, or_false, not_or] at hmarks
  obtain ⟨hlt, hgt, hquot, hapos⟩ := hmarks
  unfold markupEntity
  split
  case h_6 => rfl
  all_goals contradiction

theorem markupEntity_of_isWord (h : isWord c = true) : markupEntity c = [c] := by
  have hspecial : (('&' :: markupMarks).all fun d => !isWord d) = true := by decide
  have hnot : c ∉ '&' :: markupMarks := by
    intro hc
    have hc' := List.all_eq_true.1 hspecial c hc
    rw [h] at hc'
    cases hc'
  rw [List.mem_cons, not_or] at hnot
  exact markupEntity_of_plain hnot.1 hnot.2

theorem notMem_markupMarks_of_plain (h : markupEntity c = [c]) : c ∉ markupMarks :=
  notMem_markupMarks_of_mem_entity (h ▸ List.mem_singleton_self c)

theorem ne_ampersand_of_plain (h : markupEntity c = [c]) : c ≠ '&' := by
  rintro rfl
  cases h

end Characters

namespace EntityTail

variable {tail : List Char}

theorem plain (h : EntityTail tail) : ∀ c ∈ tail, markupEntity c = [c] := by
  obtain ⟨hash, word, hhash, -, hword, rfl⟩ := h
  intro c hc
  simp only [List.mem_append, List.mem_singleton] at hc
  rcases hc with (hc | hc) | rfl
  · rcases hhash with rfl | rfl
    · cases hc
    · rw [List.mem_singleton.1 hc]
      rfl
  · exact markupEntity_of_isWord (hword c hc)
  · rfl

theorem of_word (word : List Char) (hne : word ≠ []) (h : word.all isWord = true) :
    EntityTail (word ++ [';']) :=
  ⟨[], word, .inl rfl, hne, List.all_eq_true.1 h, rfl⟩

theorem ampersand_notMem (h : EntityTail tail) : '&' ∉ tail :=
  fun hmem => ne_ampersand_of_plain (h.plain '&' hmem) rfl

end EntityTail

theorem plain_or_exists_entityTail (c : Char) :
    markupEntity c = [c] ∨ ∃ tail, EntityTail tail ∧ markupEntity c = '&' :: tail := by
  unfold markupEntity
  split
  · exact .inr ⟨"amp;".toList, .of_word "amp".toList nofun (by decide), rfl⟩
  · exact .inr ⟨"lt;".toList, .of_word "lt".toList nofun (by decide), rfl⟩
  · exact .inr ⟨"gt;".toList, .of_word "gt".toList nofun (by decide), rfl⟩
  · exact .inr ⟨"quot;".toList, .of_word "quot".toList nofun (by decide), rfl⟩
  · have hdigits : "039".toList.all isWord = true := by decide
    have htail : EntityTail "#039;".toList :=
      ⟨['#'], "039".toList, .inr rfl, nofun, List.all_eq_true.1 hdigits, rfl⟩
    exact .inr ⟨"#039;".toList, htail, rfl⟩
  · exact .inl rfl

section Reading

variable {s tail rest : List Char}

theorem span_word {word : List Char} (h : ∀ c ∈ word, isWord c = true) (rest : List Char) :
    (word ++ ';' :: rest).takeWhile isWord = word ∧
      (word ++ ';' :: rest).dropWhile isWord = ';' :: rest := by
  have hend : isWord ';' = false := by decide
  rw [List.takeWhile_append_of_pos h, List.dropWhile_append_of_pos h]
  simp [hend]

theorem entityTail_of_entityTail? (h : entityTail? s = some (tail, rest)) : EntityTail tail := by
  unfold entityTail? at h
  simp only at h
  split at h
  · rename_i first word hword hdrop
    simp only [Option.some.injEq, Prod.mk.injEq] at h
    refine ⟨_, _, ?_, ?_, List.all_eq_true.1 List.all_takeWhile, h.1.symm⟩
    · cases s with
      | nil => exact .inl rfl
      | cons d s =>
        by_cases hd : d = '#'
        · subst hd
          exact .inr (by simp)
        · exact .inl (by simp [hd])
    · rw [hword]
      exact List.cons_ne_nil _ _
  · cases h

theorem entityTail?_append (h : EntityTail tail) (rest : List Char) :
    entityTail? (tail ++ rest) = some (tail, rest) := by
  obtain ⟨hash, word, hhash, hne, hword, rfl⟩ := h
  obtain ⟨htake, hdrop⟩ := span_word hword rest
  obtain ⟨first, more, rfl⟩ := List.exists_cons_of_ne_nil hne
  have hbody : hash ++ (first :: more) ++ [';'] ++ rest =
      hash ++ (first :: more ++ ';' :: rest) := by simp
  have hsplit :
      ((hash ++ (first :: more ++ ';' :: rest)).takeWhile (· = '#') |>.take 1) = hash := by
    rcases hhash with rfl | rfl
    · have hfirst : first ≠ '#' := by
        rintro rfl
        exact absurd (hword '#' List.mem_cons_self) (by decide)
      simp [hfirst]
    · simp
  unfold entityTail?
  simp only [hbody, hsplit, List.drop_left, htake, hdrop]

theorem entityTail?_eq_some_iff :
    entityTail? s = some (tail, rest) ↔ EntityTail tail ∧ s = tail ++ rest := by
  constructor
  · intro h
    exact ⟨entityTail_of_entityTail? h, eq_of_entityTail? h⟩
  · rintro ⟨h, rfl⟩
    exact entityTail?_append h rest

theorem isSome_entityTail?_iff : (entityTail? s).isSome ↔ CompletesEntity s := by
  rw [Option.isSome_iff_exists]
  constructor
  · rintro ⟨⟨tail, rest⟩, h⟩
    obtain ⟨htail, rfl⟩ := entityTail?_eq_some_iff.1 h
    exact ⟨tail, htail, List.prefix_append tail rest⟩
  · rintro ⟨tail, htail, rest, rfl⟩
    exact ⟨(tail, rest), entityTail?_append htail rest⟩

instance (s : List Char) : Decidable (CompletesEntity s) :=
  decidable_of_iff _ isSome_entityTail?_iff

end Reading

section Escaping

variable {tail : List Char}

@[simp] theorem escapeMarkup_cons (c : Char) (s : List Char) :
    escapeMarkup (c :: s) = markupEntity c ++ escapeMarkup s := List.flatMap_cons

theorem escapeMarkup_append_of_plain (h : ∀ c ∈ tail, markupEntity c = [c]) (s : List Char) :
    escapeMarkup (tail ++ s) = tail ++ escapeMarkup s := by
  induction tail with
  | nil => rfl
  | cons c tail ih =>
    obtain ⟨hc, htail⟩ := List.forall_mem_cons.1 h
    rw [List.cons_append, escapeMarkup_cons, hc, ih htail]
    rfl

theorem exists_of_escapeMarkup_eq_append {s rest : List Char} (htail : '&' ∉ tail)
    (h : escapeMarkup s = tail ++ rest) : ∃ after, s = tail ++ after := by
  induction tail generalizing s with
  | nil => exact ⟨s, rfl⟩
  | cons d tail ih =>
    rw [List.mem_cons, not_or] at htail
    obtain ⟨hd, hmore⟩ := htail
    cases s with
    | nil => cases h
    | cons c s =>
      rw [escapeMarkup_cons] at h
      obtain hc | ⟨entity, -, hc⟩ := plain_or_exists_entityTail c
      · rw [hc, List.singleton_append, List.cons_append, List.cons.injEq] at h
        obtain ⟨rfl, hs⟩ := h
        obtain ⟨after, rfl⟩ := ih hmore hs
        exact ⟨after, rfl⟩
      -- An entity begins with an ampersand, which the tail does not.
      · rw [hc, List.cons_append, List.cons_append, List.cons.injEq] at h
        exact absurd h.1 hd

theorem completesEntity_escapeMarkup_iff {s : List Char} :
    CompletesEntity (escapeMarkup s) ↔ CompletesEntity s := by
  constructor
  · rintro ⟨tail, htail, rest, h⟩
    obtain ⟨after, rfl⟩ := exists_of_escapeMarkup_eq_append htail.ampersand_notMem h.symm
    exact ⟨tail, htail, List.prefix_append tail after⟩
  · rintro ⟨tail, htail, rest, rfl⟩
    rw [escapeMarkup_append_of_plain htail.plain]
    exact ⟨tail, htail, List.prefix_append tail _⟩

end Escaping

section Restoring

theorem restoreEntities_cons_of_ne {c : Char} (hc : c ≠ '&') (s : List Char) :
    restoreEntities (c :: s) = c :: restoreEntities s := by
  rw [restoreEntities, if_neg fun h => hc h.1]

theorem restoreEntities_append {l : List Char} (h : '&' ∉ l) (s : List Char) :
    restoreEntities (l ++ s) = l ++ restoreEntities s := by
  induction l with
  | nil => rfl
  | cons c l ih =>
    rw [List.mem_cons, not_or] at h
    rw [List.cons_append, restoreEntities_cons_of_ne fun hc => h.1 hc.symm, ih h.2,
      List.cons_append]

theorem restoreEntities_ampersand (s : List Char) :
    restoreEntities (markupEntity '&' ++ s) =
      (if CompletesEntity s then ['&'] else markupEntity '&') ++ restoreEntities s := by
  have hmark : markupEntity '&' = '&' :: "amp;".toList := rfl
  have htake : ("amp;".toList ++ s).take 4 = ['a', 'm', 'p', ';'] := rfl
  have hdrop : ("amp;".toList ++ s).drop 4 = s := rfl
  rw [hmark, List.cons_append, restoreEntities, if_pos ⟨rfl, htake⟩, hdrop]
  split
  · rename_i tail after h
    obtain ⟨htail, rfl⟩ := entityTail?_eq_some_iff.1 h
    -- The tail is skipped here, but it has no ampersand, so reading it would leave it as it is.
    rw [if_pos (isSome_entityTail?_iff.1 (Option.isSome_of_eq_some h)),
      restoreEntities_append htail.ampersand_notMem]
    rfl
  · rename_i h
    have hnot : ¬ CompletesEntity s := by
      rw [← isSome_entityTail?_iff, h]
      exact Bool.false_ne_true
    rw [if_neg hnot, restoreEntities_append (by decide)]
    rfl

theorem restoreEntities_of_ne {d : Char} (hd : d ≠ 'a') {tail : List Char}
    (h : '&' ∉ d :: tail) (s : List Char) :
    restoreEntities ('&' :: d :: tail ++ s) = '&' :: d :: tail ++ restoreEntities s := by
  have hnot : ¬ ('&' = '&' ∧ (d :: tail ++ s).take 4 = ['a', 'm', 'p', ';']) :=
    fun hmark => hd (List.cons.inj hmark.2).1
  rw [List.cons_append, restoreEntities, if_neg hnot, restoreEntities_append h]
  rfl

theorem restoreEntities_markupEntity {c : Char} (hc : c ≠ '&') (s : List Char) :
    restoreEntities (markupEntity c ++ s) = markupEntity c ++ restoreEntities s := by
  unfold markupEntity
  split
  case h_1 => exact absurd rfl hc
  case h_6 => exact restoreEntities_cons_of_ne hc s
  all_goals exact restoreEntities_of_ne (by decide) (by decide) s

end Restoring

section OnePass

theorem metaContentOnce_cons (c : Char) (s : List Char) :
    metaContentOnce (c :: s) =
      (if c = '&' ∧ CompletesEntity s then ['&'] else markupEntity c) ++ metaContentOnce s := by
  rw [metaContentOnce]
  simp only [isSome_entityTail?_iff]
  split
  · rename_i h
    rw [h.1]
    rfl
  · rfl

theorem restoreEntities_escapeMarkup (s : List Char) :
    restoreEntities (escapeMarkup s) = metaContentOnce s := by
  induction s with
  | nil => rw [escapeMarkup, List.flatMap_nil, restoreEntities, metaContentOnce]
  | cons c s ih =>
    rw [escapeMarkup_cons, metaContentOnce_cons, ← ih]
    by_cases hc : c = '&'
    · subst hc
      simp only [restoreEntities_ampersand, completesEntity_escapeMarkup_iff, true_and]
    · rw [if_neg fun h => hc h.1, restoreEntities_markupEntity hc]

/-- Escaping everything and restoring the entities reads the text once: a special character gives
way to its entity, an ampersand that begins an entity is kept, and all else is copied. -/
theorem metaContent_eq_once (s : String) :
    (metaContent s).toList = metaContentOnce s.toList ∧ metaContentOnce [] = [] ∧
      ∀ c rest, metaContentOnce (c :: rest) =
        (if c = '&' ∧ CompletesEntity rest then ['&'] else markupEntity c) ++
          metaContentOnce rest := by
  refine ⟨?_, rfl, metaContentOnce_cons⟩
  rw [metaContent, String.toList_ofList, restoreEntities_escapeMarkup]

end OnePass

end ViewLayers.Text
