import ViewLayers.Proofs.Text.Placeholder

/-!
# Percent signs of a line

The percent signs of a line are taken up in pairs from the left: one opens a placeholder, and the
next one behind at least one character closes it. A line feed drops a sign that is still open.
What follows a text is read as if it stood alone when no sign of the text is left open. A sign
that is left open takes the first percent sign of a placeholder behind the text for itself.
-/

namespace ViewLayers.Text

/-- Where the reading of a text stands: outside every placeholder, right behind a sign that
opens one, or in its name. -/
inductive Standing where
  | outside
  | opened
  | named
  deriving DecidableEq, Repr

namespace Standing

def next : Standing → Char → Standing
  | .outside, c => if c = '%' then .opened else .outside
  | .opened, c => if c = '\n' then .outside else .named
  | .named, c => if c = '%' ∨ c = '\n' then .outside else .named

def after (a : Standing) (s : List Char) : Standing := s.foldl next a

variable {s name : List Char}

@[simp] theorem after_append (a : Standing) (s t : List Char) :
    a.after (s ++ t) = (a.after s).after t := List.foldl_append

@[simp] theorem after_cons (a : Standing) (c : Char) (s : List Char) :
    a.after (c :: s) = (a.next c).after s := rfl

@[simp] theorem next_newline (a : Standing) : a.next '\n' = .outside := by
  cases a <;> rfl

theorem next_eq_opened_iff {a : Standing} {c : Char} :
    a.next c = .opened ↔ a = .outside ∧ c = '%' := by
  cases a <;> simp only [next] <;> split <;> simp_all

theorem after_congr (h : '\n' ∈ s) (a b : Standing) : a.after s = b.after s := by
  obtain ⟨line, rest, rfl⟩ := List.append_of_mem h
  rw [after_append, after_append, after_cons, after_cons, next_newline, next_newline]

theorem after_named (hsign : '%' ∉ s) (hline : '\n' ∉ s) : Standing.named.after s = .named := by
  induction s with
  | nil => rfl
  | cons c s ih =>
    rw [List.mem_cons, not_or] at hsign hline
    have hc : ¬ (c = '%' ∨ c = '\n') := by
      rintro (rfl | rfl)
      · exact hsign.1 rfl
      · exact hline.1 rfl
    rw [after_cons, next, if_neg hc, ih hsign.2 hline.2]

theorem after_outside_of_notMem (h : '%' ∉ s) : Standing.outside.after s = .outside := by
  induction s with
  | nil => rfl
  | cons c s ih =>
    rw [List.mem_cons, not_or] at h
    rw [after_cons, next, if_neg fun hc => h.1 hc.symm, ih h.2]

theorem after_placeholder (h : PlaceholderName name) (s : List Char) :
    Standing.outside.after ('%' :: (name ++ '%' :: s)) = Standing.outside.after s := by
  obtain ⟨hc, hsign, hline⟩ := h
  rw [after_cons, List.cons_append, after_cons, after_append]
  simp only [next, if_neg hc, if_true, after_named hsign hline, after_cons, true_or]

theorem newline_mem_of_placeholder?_eq_none (h : placeholder? s = none)
    (hs : Standing.opened.after s = .outside) : '\n' ∈ s := by
  refine Decidable.byContradiction fun hline => ?_
  cases s with
  | nil => cases hs
  | cons c rest =>
    rw [List.mem_cons, not_or] at hline
    have hc : c ≠ '\n' := Ne.symm hline.1
    by_cases hsign : '%' ∈ rest
    · obtain ⟨name, after, rfl, hname⟩ := List.eq_append_cons_of_mem hsign
      have hfeed : '\n' ∉ name := fun hmem => hline.2 (List.mem_append_left _ hmem)
      have hread : placeholder? (c :: (name ++ '%' :: after)) = some (c :: name, after) :=
        placeholder?_eq_some_iff.2 ⟨.mk hc hname hfeed, rfl⟩
      rw [hread] at h
      cases h
    · rw [after_cons, next, if_neg hc, after_named hsign hline.2] at hs
      cases hs

end Standing

section Append

variable {lookup : String → Option String} {s : List Char}

theorem substituteChars_append (h : Standing.outside.after s = .outside) (t : List Char) :
    substituteChars lookup (s ++ t) = substituteChars lookup s ++ substituteChars lookup t := by
  fun_induction substituteChars lookup s with
  | case1 => rfl
  | case2 rest name after hread ih =>
    obtain ⟨hname, rfl⟩ := placeholder?_eq_some_iff.1 hread
    rw [Standing.after_placeholder hname] at h
    rw [List.cons_append, List.append_assoc, List.cons_append, substituteChars_placeholder hname,
      ih h, List.append_assoc]
  | case3 rest hread ih =>
    have hline : '\n' ∈ rest := Standing.newline_mem_of_placeholder?_eq_none hread h
    have hrest : Standing.outside.after rest = .outside :=
      (Standing.after_congr hline _ .opened).trans h
    -- The line feed that drops the sign also keeps it from a closing sign behind the text.
    have hnone : placeholder? (rest ++ t) = none := by
      obtain ⟨line, more, rfl⟩ := List.append_of_mem hline
      rw [placeholder?_append_newline, Option.map_eq_none_iff] at hread
      rw [List.append_assoc, List.cons_append, placeholder?_append_newline, hread, Option.map_none]
    rw [List.cons_append, substituteChars_sign_of_none hnone, ih hrest, List.cons_append]
  | case4 c rest hc ih =>
    rw [Standing.after_cons, Standing.next, if_neg hc] at h
    rw [List.cons_append, substituteChars_cons_of_ne hc, ih h, List.cons_append]

end Append

structure IsName (name : String) : Prop where
  nonempty : name ≠ ""
  noSign : '%' ∉ name.toList
  oneLine : '\n' ∉ name.toList

instance (name : String) : Decidable (IsName name) :=
  decidable_of_iff (name ≠ "" ∧ '%' ∉ name.toList ∧ '\n' ∉ name.toList)
    ⟨fun h => ⟨h.1, h.2.1, h.2.2⟩, fun h => ⟨h.nonempty, h.noSign, h.oneLine⟩⟩

theorem IsName.placeholderName {name : String} (h : IsName name) :
    PlaceholderName name.toList := by
  obtain ⟨hne, hsign, hline⟩ := h
  cases hlist : name.toList with
  | nil => exact absurd (String.toList_eq_nil_iff.1 hlist) hne
  | cons c rest =>
    rw [hlist, List.mem_cons, not_or] at hsign hline
    exact ⟨fun h => hline.1 h.symm, hsign.2, hline.2⟩

theorem IsName.placeholderName_sign {name : String} (h : IsName name) :
    PlaceholderName ('%' :: name.toList) := ⟨by decide, h.noSign, h.oneLine⟩

def standing (s : String) : Standing := Standing.outside.after s.toList

section Texts

variable {lookup : String → Option String} {s name : String}

theorem NoneKnown.of_append {t : String} (h : NoneKnown lookup (s ++ t).toList) :
    NoneKnown lookup s.toList := by
  rw [String.toList_append] at h
  exact h.of_infix (List.prefix_append _ _).isInfix

theorem substitute_append (h : standing s = .outside) (t : String) :
    substitute lookup (s ++ t) = substitute lookup s ++ substitute lookup t := by
  rw [substitute, String.toList_append, substituteChars_append h, String.ofList_append]
  rfl

theorem substitute_placeholder (h : PlaceholderName name.toList) (s : String) :
    substitute lookup ("%" ++ name ++ "%" ++ s) =
      (lookup (lowercase name)).getD ("%" ++ name ++ "%") ++ substitute lookup s := by
  have hlist : ("%" ++ name ++ "%" ++ s).toList = '%' :: (name.toList ++ '%' :: s.toList) := by
    simp
  rw [substitute, hlist, substituteChars_placeholder h, String.ofList_append, replacement_eq,
    String.ofList_toList]
  rfl

theorem standing_append_sign (h : standing s = .named) : standing (s ++ "%") = .outside := by
  have hlist : (s ++ "%").toList = s.toList ++ ['%'] := by simp
  rw [standing] at h
  rw [standing, hlist, Standing.after_append, h]
  rfl

theorem exists_of_standing_opened (h : standing s = .opened) :
    ∃ before, s = before ++ "%" ∧ standing before = .outside := by
  rw [standing] at h
  rcases List.eq_nil_or_concat s.toList with hnil | ⟨before, c, hlast⟩
  · rw [hnil] at h
    cases h
  · rw [hlast, List.concat_eq_append, Standing.after_append] at h
    obtain ⟨hbefore, rfl⟩ := Standing.next_eq_opened_iff.1 h
    refine ⟨String.ofList before, ?_, ?_⟩
    · rw [← String.toList_inj, hlast]
      simp
    · rw [standing, String.toList_ofList]
      exact hbefore

end Texts

/-- A known placeholder behind a text is replaced when no sign of the text is left open. A sign
that is left open with a name begun is closed by the placeholder's first sign instead, and one at
the end of the text takes that sign for the first character of a name. -/
theorem substitute_append_known {lookup : String → Option String} {name value before : String}
    (hname : IsName name) (hvalue : lookup (lowercase name) = some value)
    (hbefore : NoneKnown lookup (before ++ "%").toList) (s : String) :
    (standing before = .outside →
      substitute lookup (before ++ "%" ++ name ++ "%" ++ s) =
        before ++ value ++ substitute lookup s) ∧
      (standing before = .named →
        substitute lookup (before ++ "%" ++ name ++ "%" ++ s) =
          before ++ "%" ++ substitute lookup (name ++ "%" ++ s)) ∧
      (standing before = .opened → ∃ start, before = start ++ "%" ∧
        substitute lookup (before ++ "%" ++ name ++ "%" ++ s) =
          start ++ (lookup (lowercase ("%" ++ name))).getD ("%%" ++ name ++ "%") ++
            substitute lookup s) := by
  have hkept : NoneKnown lookup before.toList := hbefore.of_append
  refine ⟨fun hout => ?_, fun hnamed => ?_, fun hopened => ?_⟩
  · have hassoc : before ++ "%" ++ name ++ "%" ++ s = before ++ ("%" ++ name ++ "%" ++ s) := by
      simp only [String.append_assoc]
    rw [hassoc, substitute_append hout, substitute_eq_self hkept,
      substitute_placeholder hname.placeholderName, hvalue, Option.getD_some, String.append_assoc]
  · have hassoc : before ++ "%" ++ name ++ "%" ++ s = before ++ "%" ++ (name ++ "%" ++ s) := by
      simp only [String.append_assoc]
    rw [hassoc, substitute_append (standing_append_sign hnamed), substitute_eq_self hbefore]
  · obtain ⟨start, rfl, hstart⟩ := exists_of_standing_opened hopened
    refine ⟨start, rfl, ?_⟩
    have hassoc : start ++ "%" ++ "%" ++ name ++ "%" ++ s =
        start ++ ("%" ++ ("%" ++ name) ++ "%" ++ s) := by
      simp only [String.append_assoc]
    have hsigns : "%" ++ ("%" ++ name) ++ "%" = "%%" ++ name ++ "%" := by
      rw [← String.append_assoc]
      rfl
    have hsign : PlaceholderName ("%" ++ name).toList := by
      rw [String.toList_append]
      exact hname.placeholderName_sign
    rw [hassoc, substitute_append hstart, substitute_eq_self hkept.of_append,
      substitute_placeholder hsign, hsigns, ← String.append_assoc]

def siteConstants : Constants := .ofPairs [("SITE", "example"), ("RATE", "5%")]

theorem substitute_append_known_oddPrefix :
    IsName "Site" ∧ siteConstants.lookup (lowercase "Site") = some "example" ∧
      NoneKnown siteConstants.lookup ("1%\n%TAX%: " ++ "%").toList ∧
      standing "1%\n%TAX%: " = .outside ∧
      substitute siteConstants.lookup ("1%\n%TAX%: " ++ "%" ++ "Site" ++ "%" ++ " at %rate%") =
        "1%\n%TAX%: example at 5%" := by
  have hname : IsName "Site" := by decide +kernel
  have hvalue : siteConstants.lookup (lowercase "Site") = some "example" := by decide +kernel
  have hbefore : NoneKnown siteConstants.lookup ("1%\n%TAX%: " ++ "%").toList := by
    decide +kernel
  have hout : standing "1%\n%TAX%: " = .outside := by decide +kernel
  refine ⟨hname, hvalue, hbefore, hout, ?_⟩
  rw [(substitute_append_known hname hvalue hbefore " at %rate%").1 hout]
  decide +kernel

/-- A stray sign before a known placeholder keeps it from being replaced. -/
theorem substitute_strayPercent :
    substitute siteConstants.lookup "100% of %SITE%" = "100% of %SITE%" ∧
      ¬ ∀ (lookup : String → Option String) (before name value s : String), IsName name →
        lookup (lowercase name) = some value →
        (∀ m, IsName m → ("%" ++ m ++ "%").toList <:+: (before ++ "%").toList →
          lookup (lowercase m) = none) →
        (before ++ value).toList <+:
          (substitute lookup (before ++ "%" ++ name ++ "%" ++ s)).toList := by
  have hkept : substitute siteConstants.lookup "100% of %SITE%" = "100% of %SITE%" := by
    decide +kernel
  refine ⟨hkept, fun h => ?_⟩
  have hname : IsName "SITE" := by decide +kernel
  have hvalue : siteConstants.lookup (lowercase "SITE") = some "example" := by decide +kernel
  have hnone : NoneKnown siteConstants.lookup ("100% of " ++ "%").toList := by decide +kernel
  have hpre := h siteConstants.lookup "100% of " "SITE" "example" "" hname hvalue
    (fun m hm hin => by
      have hlist : ("%" ++ m ++ "%").toList = '%' :: (m.toList ++ ['%']) := by simp
      rw [hlist] at hin
      have hm' := hnone m.toList hm.placeholderName hin
      rwa [String.ofList_toList] at hm')
  have htext : "100% of " ++ "%" ++ "SITE" ++ "%" ++ "" = "100% of %SITE%" := by decide +kernel
  rw [htext, hkept] at hpre
  exact absurd hpre (by decide +kernel)

end ViewLayers.Text
