import ViewLayers.Constants

/-!
# Placeholders in a text

Reading a placeholder splits the text at its closing percent sign and loses nothing, so a text
in which no name is known comes out as it was. A placeholder ends on its line, so the lines of a
text are read one by one.
-/

namespace ViewLayers.Text

/-- What stands between the two signs of a placeholder: only its first character can be a sign. -/
inductive PlaceholderName : List Char → Prop where
  | mk {c : Char} {rest : List Char} (first : c ≠ '\n') (noSign : '%' ∉ rest)
    (oneLine : '\n' ∉ rest) : PlaceholderName (c :: rest)

section Reading

variable {s name after : List Char}

theorem upToMark_append (hsign : '%' ∉ name) (hline : '\n' ∉ name) (after : List Char) :
    upToMark (name ++ '%' :: after) = some (name, after) := by
  induction name with
  | nil => simp [upToMark]
  | cons c name ih =>
    rw [List.mem_cons, not_or] at hsign hline
    rw [List.cons_append, upToMark, if_neg fun h => hsign.1 h.symm,
      if_neg fun h => hline.1 h.symm, ih hsign.2 hline.2, Option.map_some]

theorem upToMark_eq_some_iff :
    upToMark s = some (name, after) ↔
      '%' ∉ name ∧ '\n' ∉ name ∧ s = name ++ '%' :: after := by
  constructor
  · intro h
    induction s generalizing name with
    | nil => cases h
    | cons c rest ih =>
      rw [upToMark] at h
      split at h
      · rename_i hsign
        cases h
        exact ⟨List.not_mem_nil, List.not_mem_nil, by rw [hsign, List.nil_append]⟩
      · rename_i hsign
        split at h
        · cases h
        · rename_i hline
          obtain ⟨⟨n, a⟩, hn, he⟩ := Option.map_eq_some_iff.1 h
          cases he
          obtain ⟨hsign', hline', rfl⟩ := ih hn
          exact ⟨List.not_mem_cons_of_ne_of_not_mem (Ne.symm hsign) hsign',
            List.not_mem_cons_of_ne_of_not_mem (Ne.symm hline) hline', rfl⟩
  · rintro ⟨hsign, hline, rfl⟩
    exact upToMark_append hsign hline after

theorem placeholder?_eq_some_iff :
    placeholder? s = some (name, after) ↔ PlaceholderName name ∧ s = name ++ '%' :: after := by
  constructor
  · intro h
    cases s with
    | nil => cases h
    | cons c rest =>
      rw [placeholder?] at h
      split at h
      · cases h
      · rename_i hc
        obtain ⟨⟨n, a⟩, hn, he⟩ := Option.map_eq_some_iff.1 h
        cases he
        obtain ⟨hsign, hline, rfl⟩ := upToMark_eq_some_iff.1 hn
        exact ⟨⟨hc, hsign, hline⟩, rfl⟩
  · rintro ⟨⟨hc, hsign, hline⟩, rfl⟩
    rw [List.cons_append, placeholder?, if_neg hc, upToMark_append hsign hline, Option.map_some]

theorem upToMark_append_newline (s rest : List Char) :
    upToMark (s ++ '\n' :: rest) =
      (upToMark s).map fun e => (e.1, e.2 ++ '\n' :: rest) := by
  induction s with
  | nil => simp [upToMark]
  | cons c s ih =>
    rw [List.cons_append, upToMark, upToMark, ih]
    split
    · rfl
    · split
      · rfl
      · simp only [Option.map_map, Function.comp_def]

theorem placeholder?_append_newline (s rest : List Char) :
    placeholder? (s ++ '\n' :: rest) =
      (placeholder? s).map fun e => (e.1, e.2 ++ '\n' :: rest) := by
  cases s with
  | nil => simp [placeholder?]
  | cons c s =>
    rw [List.cons_append, placeholder?, placeholder?, upToMark_append_newline]
    split
    · rfl
    · simp only [Option.map_map, Function.comp_def]

end Reading

section Substitution

variable {lookup : String → Option String}

theorem replacement_eq (lookup : String → Option String) (name : List Char) :
    String.ofList (replacement lookup name) =
      (lookup (lowercase (String.ofList name))).getD ("%" ++ String.ofList name ++ "%") := by
  rw [replacement]
  cases lookup (lowercase (String.ofList name)) with
  | some value => exact String.ofList_toList
  | none =>
    rw [Option.getD_none, ← String.toList_inj]
    simp

theorem substituteChars_cons_of_ne {c : Char} (hc : c ≠ '%') (s : List Char) :
    substituteChars lookup (c :: s) = c :: substituteChars lookup s := by
  rw [substituteChars, if_neg hc]

theorem substituteChars_placeholder {name : List Char} (h : PlaceholderName name)
    (s : List Char) :
    substituteChars lookup ('%' :: (name ++ '%' :: s)) =
      replacement lookup name ++ substituteChars lookup s := by
  have hread : placeholder? (name ++ '%' :: s) = some (name, s) :=
    placeholder?_eq_some_iff.2 ⟨h, rfl⟩
  rw [substituteChars, if_pos rfl]
  split
  · rename_i n a hn
    rw [hread, Option.some.injEq, Prod.mk.injEq] at hn
    rw [hn.1, hn.2]
  · rename_i hn
    rw [hread] at hn
    cases hn

theorem substituteChars_sign_of_none {s : List Char} (h : placeholder? s = none) :
    substituteChars lookup ('%' :: s) = '%' :: substituteChars lookup s := by
  rw [substituteChars, if_pos rfl]
  split
  · rename_i n a hn
    rw [h] at hn
    cases hn
  · rfl

theorem substituteChars_append_newline (s t : List Char) :
    substituteChars lookup (s ++ '\n' :: t) =
      substituteChars lookup s ++ '\n' :: substituteChars lookup t := by
  fun_induction substituteChars lookup s with
  | case1 => exact substituteChars_cons_of_ne (by decide) t
  | case2 rest name after h ih =>
    obtain ⟨hname, rfl⟩ := placeholder?_eq_some_iff.1 h
    rw [List.cons_append, List.append_assoc, List.cons_append, substituteChars_placeholder hname,
      ih, List.append_assoc]
  | case3 rest h ih =>
    rw [List.cons_append, substituteChars_sign_of_none, ih, List.cons_append]
    rw [placeholder?_append_newline, h, Option.map_none]
  | case4 c rest hc ih =>
    rw [List.cons_append, substituteChars_cons_of_ne hc, ih, List.cons_append]

end Substitution

def NoneKnown (lookup : String → Option String) (s : List Char) : Prop :=
  ∀ name, PlaceholderName name → '%' :: (name ++ ['%']) <:+: s →
    lookup (lowercase (String.ofList name)) = none

section NoneKnown

variable {lookup : String → Option String} {s t : List Char}

theorem NoneKnown.of_infix (h : NoneKnown lookup t) (hs : s <:+: t) : NoneKnown lookup s :=
  fun name hname hin => h name hname (hin.trans hs)

theorem noneKnown_cons_iff {c : Char} :
    NoneKnown lookup (c :: s) ↔
      (c = '%' → ∀ e ∈ placeholder? s, lookup (lowercase (String.ofList e.1)) = none) ∧
        NoneKnown lookup s := by
  constructor
  · intro h
    refine ⟨?_, h.of_infix (List.suffix_cons c s).isInfix⟩
    rintro rfl ⟨name, after⟩ hread
    obtain ⟨hname, rfl⟩ := placeholder?_eq_some_iff.1 hread
    exact h name hname ⟨[], after, by simp⟩
  · rintro ⟨hfirst, hs⟩ name hname hin
    rcases List.infix_cons_iff.1 hin with ⟨after, hpre⟩ | hin
    · rw [List.cons_append, List.append_assoc, List.singleton_append, List.cons.injEq] at hpre
      obtain ⟨rfl, rfl⟩ := hpre
      exact hfirst rfl (name, after) (placeholder?_eq_some_iff.2 ⟨hname, rfl⟩)
    · exact hs name hname hin

instance decidableNoneKnown (lookup : String → Option String) :
    ∀ s : List Char, Decidable (NoneKnown lookup s)
  | [] => isTrue fun _ _ h => nomatch List.infix_nil.1 h
  | _ :: s =>
    have := decidableNoneKnown lookup s
    decidable_of_iff _ noneKnown_cons_iff.symm

theorem substituteChars_eq_self (h : NoneKnown lookup s) : substituteChars lookup s = s := by
  fun_induction substituteChars lookup s with
  | case1 => rfl
  | case2 rest name after hread ih =>
    obtain ⟨hfirst, hrest⟩ := noneKnown_cons_iff.1 h
    have hnone := hfirst rfl (name, after) hread
    obtain ⟨hname, rfl⟩ := placeholder?_eq_some_iff.1 hread
    have hafter : NoneKnown lookup after :=
      hrest.of_infix ((List.suffix_cons '%' after).trans (List.suffix_append name _)).isInfix
    rw [replacement, hnone, ih hafter]
    simp
  | case3 rest _ ih => rw [ih (noneKnown_cons_iff.1 h).2]
  | case4 c rest _ ih => rw [ih (noneKnown_cons_iff.1 h).2]

end NoneKnown

theorem substitute_eq_self {lookup : String → Option String} {s : String}
    (h : NoneKnown lookup s.toList) : substitute lookup s = s := by
  rw [substitute, substituteChars_eq_self h, String.ofList_toList]

theorem substitute_noConstants (s : String) : substitute noConstants s = s :=
  substitute_eq_self fun _ _ _ => rfl

end ViewLayers.Text
