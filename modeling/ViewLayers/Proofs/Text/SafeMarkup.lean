import ViewLayers.Proofs.Text.Entities

/-!
# Texts that are safe in a page head

A text that has been escaped has no mark, and each of its ampersands begins an entity. Reading such
a text keeps every character, so escaping again changes nothing, and the texts that come out are
exactly those that stay the same.
-/

namespace ViewLayers.Text

structure SafeMarkup (s : List Char) : Prop where
  noMarks : ∀ c ∈ s, c ∉ markupMarks
  entities : ∀ rest, '&' :: rest <:+ s → CompletesEntity rest

section Safe

variable {s tail : List Char}

theorem safeMarkup_nil : SafeMarkup [] where
  noMarks := nofun
  entities := by
    intro rest h
    cases List.suffix_nil.1 h

theorem safeMarkup_cons_iff {c : Char} :
    SafeMarkup (c :: s) ↔ c ∉ markupMarks ∧ (c = '&' → CompletesEntity s) ∧ SafeMarkup s := by
  constructor
  · rintro ⟨hmarks, hentities⟩
    obtain ⟨hc, hs⟩ := List.forall_mem_cons.1 hmarks
    refine ⟨hc, ?_, hs, fun rest h => hentities rest (h.trans (List.suffix_cons c s))⟩
    rintro rfl
    exact hentities s List.suffix_rfl
  · rintro ⟨hc, hentity, hmarks, hentities⟩
    refine ⟨List.forall_mem_cons.2 ⟨hc, hmarks⟩, fun rest h => ?_⟩
    rcases List.suffix_cons_iff.1 h with heq | hsuffix
    · obtain ⟨hmark, rfl⟩ := List.cons.inj heq
      exact hentity hmark.symm
    · exact hentities rest hsuffix

theorem SafeMarkup.append_of_plain (hs : SafeMarkup s) (h : ∀ c ∈ tail, markupEntity c = [c]) :
    SafeMarkup (tail ++ s) := by
  induction tail with
  | nil => exact hs
  | cons c tail ih =>
    obtain ⟨hc, htail⟩ := List.forall_mem_cons.1 h
    refine safeMarkup_cons_iff.2 ⟨notMem_markupMarks_of_plain hc, ?_, ih htail⟩
    exact fun hmark => absurd hmark (ne_ampersand_of_plain hc)

theorem EntityTail.safeMarkup_append (h : EntityTail tail) (hs : SafeMarkup s) :
    SafeMarkup ('&' :: tail ++ s) := by
  have hsafe : SafeMarkup (tail ++ s) := hs.append_of_plain h.plain
  exact safeMarkup_cons_iff.2
    ⟨by decide, fun _ => ⟨tail, h, List.prefix_append tail s⟩, hsafe⟩

end Safe

section OnePass

variable {s : List Char}

theorem metaContentOnce_append_of_plain {tail : List Char} (h : ∀ c ∈ tail, markupEntity c = [c])
    (s : List Char) : metaContentOnce (tail ++ s) = tail ++ metaContentOnce s := by
  induction tail with
  | nil => rfl
  | cons c tail ih =>
    obtain ⟨hc, htail⟩ := List.forall_mem_cons.1 h
    rw [List.cons_append, metaContentOnce_cons, hc, ih htail,
      if_neg fun hmark => ne_ampersand_of_plain hc hmark.1]
    rfl

theorem completesEntity_metaContentOnce (h : CompletesEntity s) :
    CompletesEntity (metaContentOnce s) := by
  obtain ⟨tail, htail, rest, rfl⟩ := h
  rw [metaContentOnce_append_of_plain htail.plain]
  exact ⟨tail, htail, List.prefix_append tail _⟩

theorem safeMarkup_metaContentOnce (s : List Char) : SafeMarkup (metaContentOnce s) := by
  induction s with
  | nil => exact safeMarkup_nil
  | cons c s ih =>
    rw [metaContentOnce_cons]
    split
    · rename_i hkept
      exact safeMarkup_cons_iff.2
        ⟨by decide, fun _ => completesEntity_metaContentOnce hkept.2, ih⟩
    · obtain hc | ⟨tail, htail, hc⟩ := plain_or_exists_entityTail c
      · rw [hc]
        exact ih.append_of_plain fun d hd => by rw [List.mem_singleton.1 hd, hc]
      · rw [hc]
        exact htail.safeMarkup_append ih

theorem SafeMarkup.metaContentOnce_eq (h : SafeMarkup s) : metaContentOnce s = s := by
  induction s with
  | nil => rfl
  | cons c s ih =>
    obtain ⟨hc, hentity, hs⟩ := safeMarkup_cons_iff.1 h
    rw [metaContentOnce_cons, ih hs]
    by_cases hmark : c = '&'
    · rw [if_pos ⟨hmark, hentity hmark⟩, hmark]
      rfl
    · rw [if_neg fun hkept => hmark hkept.1, markupEntity_of_plain hmark hc]
      rfl

end OnePass

/-- Escaping again changes nothing, and the texts that escaping leaves as they are, which are
those that it gives, are the safe ones. -/
theorem metaContent_idempotent :
    (∀ s : String, metaContent (metaContent s) = metaContent s) ∧
      (∀ t : String, metaContent t = t ↔ SafeMarkup t.toList) ∧
      ∀ t : String, (∃ s, metaContent s = t) ↔ SafeMarkup t.toList := by
  have honce : ∀ s : String, metaContent s = String.ofList (metaContentOnce s.toList) := by
    intro s
    rw [metaContent, restoreEntities_escapeMarkup]
  have hsafe : ∀ s : String, SafeMarkup (metaContent s).toList := by
    intro s
    rw [honce, String.toList_ofList]
    exact safeMarkup_metaContentOnce s.toList
  have hkept : ∀ t : String, SafeMarkup t.toList → metaContent t = t := by
    intro t ht
    rw [honce, ht.metaContentOnce_eq, String.ofList_toList]
  refine ⟨fun s => hkept _ (hsafe s), fun t => ⟨fun h => h ▸ hsafe t, hkept t⟩, fun t => ?_⟩
  constructor
  · rintro ⟨s, rfl⟩
    exact hsafe s
  · exact fun ht => ⟨t, hkept t ht⟩

end ViewLayers.Text
