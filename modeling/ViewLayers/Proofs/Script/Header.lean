import ViewLayers.Proofs.Script.Characters

/-!
# The date of a script

The date line shows every field of a moment but the fraction of its second, and each field can
be read off it: digits end at the first character that is none.
-/

namespace ViewLayers

theorem append_inj_of_forall {α : Type} {p : α → Bool} {as bs x y : List α}
    (ha : ∀ a ∈ as, p a = true) (hb : ∀ b ∈ bs, p b = true) (hx : ∀ a ∈ x.head?, p a = false)
    (hy : ∀ a ∈ y.head?, p a = false) (h : as ++ x = bs ++ y) : as = bs ∧ x = y := by
  induction as generalizing bs with
  | nil =>
    cases bs with
    | nil => exact ⟨rfl, h⟩
    | cons b bs =>
      subst h
      have hfalse := hx b rfl
      rw [hb b List.mem_cons_self] at hfalse
      exact absurd hfalse (by decide)
  | cons a as ih =>
    cases bs with
    | nil =>
      have hfalse := hy a (by rw [← List.nil_append y, ← h]; rfl)
      rw [ha a List.mem_cons_self] at hfalse
      exact absurd hfalse (by decide)
    | cons b bs =>
      obtain ⟨rfl, hrest⟩ := List.cons.inj h
      obtain ⟨rfl, hxy⟩ := ih (fun c hc => ha c (List.mem_cons_of_mem _ hc))
        (fun c hc => hb c (List.mem_cons_of_mem _ hc)) hrest
      exact ⟨rfl, hxy⟩

namespace Moment

open Script (Bare bare_append bare_ofList bare_of_isAtom)

def wholeSecond (m : Moment) : Moment := { m with nanosecond := 0 }

theorem toList_padded (width n : Nat) :
    (padded width n).toList =
      List.replicate (width - (toString n).length) '0' ++ Nat.toDigits 10 n := by
  simp only [padded, String.toList_append, String.toList_ofList, Nat.toString_eq_repr,
    Nat.toList_repr]

theorem isDigit_of_mem_padded {width n : Nat} :
    ∀ c ∈ (padded width n).toList, c.isDigit = true := by
  intro c hc
  rw [toList_padded, List.mem_append] at hc
  rcases hc with hc | hc
  · rw [List.eq_of_mem_replicate hc]
    decide
  · exact Nat.isDigit_of_mem_toDigits (by decide) (by decide) hc

theorem ofDigitChars_padded (width n : Nat) :
    Nat.ofDigitChars 10 (padded width n).toList 0 = n := by
  rw [toList_padded, Nat.ofDigitChars_append, Nat.ofDigitChars_replicate_zero, Nat.mul_zero,
    Nat.ofDigitChars_ten_toDigits]

theorem padded_append_inj {width n m : Nat} {x y : List Char}
    (hx : ∀ c ∈ x.head?, c.isDigit = false) (hy : ∀ c ∈ y.head?, c.isDigit = false)
    (h : (padded width n).toList ++ x = (padded width m).toList ++ y) : n = m ∧ x = y := by
  obtain ⟨hdigits, hxy⟩ :=
    append_inj_of_forall isDigit_of_mem_padded isDigit_of_mem_padded hx hy h
  have hvalue := congrArg (fun cs => Nat.ofDigitChars 10 cs 0) hdigits
  simp only [ofDigitChars_padded] at hvalue
  exact ⟨hvalue, hxy⟩

theorem padded_append_ne_cons {width n : Nat} {c : Char} (hc : c.isDigit = false)
    (x y : List Char) : (padded width n).toList ++ x ≠ c :: y := by
  intro h
  cases hp : (padded width n).toList with
  | nil =>
    rw [toList_padded, List.append_eq_nil_iff] at hp
    exact Nat.toDigits_ne_nil hp.2
  | cons d ds =>
    rw [hp, List.cons_append, List.cons.injEq] at h
    have hd : d.isDigit = true := isDigit_of_mem_padded d (by rw [hp]; exact List.mem_cons_self)
    rw [h.1, hc] at hd
    exact absurd hd (by decide)

theorem toList_yearText (year : Int) :
    (year < 0 ∧ (yearText year).toList = '-' :: (padded 4 year.natAbs).toList) ∨
    (0 ≤ year ∧ year < 10000 ∧ (yearText year).toList = (padded 4 year.natAbs).toList) ∨
    (10000 ≤ year ∧ (yearText year).toList = '+' :: (padded 4 year.natAbs).toList) := by
  unfold yearText
  split_ifs with h hneg
  · exact .inr (.inl ⟨h.1, h.2, rfl⟩)
  · exact .inl ⟨hneg, by simp⟩
  · exact .inr (.inr ⟨by omega, by simp⟩)

theorem yearText_append_inj {a b : Int} {x y : List Char}
    (hx : ∀ c ∈ x.head?, c.isDigit = false) (hy : ∀ c ∈ y.head?, c.isDigit = false)
    (h : (yearText a).toList ++ x = (yearText b).toList ++ y) : a = b ∧ x = y := by
  have hminus : '-'.isDigit = false := by decide
  have hplus : '+'.isDigit = false := by decide
  rcases toList_yearText a with ⟨ha, hta⟩ | ⟨ha, ha', hta⟩ | ⟨ha, hta⟩ <;>
    rcases toList_yearText b with ⟨hb, htb⟩ | ⟨hb, hb', htb⟩ | ⟨hb, htb⟩ <;>
    rw [hta, htb] at h
  case inl.inl =>
    obtain ⟨hn, hxy⟩ := padded_append_inj hx hy (List.cons.inj h).2
    exact ⟨by omega, hxy⟩
  case inl.inr.inl => exact absurd h.symm (padded_append_ne_cons hminus _ _)
  case inl.inr.inr => exact absurd (List.cons.inj h).1 (by decide)
  case inr.inl.inl => exact absurd h (padded_append_ne_cons hminus _ _)
  case inr.inl.inr.inl =>
    obtain ⟨hn, hxy⟩ := padded_append_inj hx hy h
    exact ⟨by omega, hxy⟩
  case inr.inl.inr.inr => exact absurd h (padded_append_ne_cons hplus _ _)
  case inr.inr.inl => exact absurd (List.cons.inj h).1 (by decide)
  case inr.inr.inr.inl => exact absurd h.symm (padded_append_ne_cons hplus _ _)
  case inr.inr.inr.inr =>
    obtain ⟨hn, hxy⟩ := padded_append_inj hx hy (List.cons.inj h).2
    exact ⟨by omega, hxy⟩

theorem headerText_inj {m n : Moment} :
    m.headerText = n.headerText ↔ m.wholeSecond = n.wholeSecond := by
  constructor
  · intro h
    have h := congrArg String.toList h
    simp only [headerText, clockText, String.toList_append, List.append_assoc] at h
    obtain ⟨hyear, h⟩ := yearText_append_inj (by simp) (by simp) h
    obtain ⟨hmonth, h⟩ := padded_append_inj (by simp) (by simp) (List.append_cancel_left h)
    obtain ⟨hday, h⟩ := padded_append_inj (by simp) (by simp) (List.append_cancel_left h)
    obtain ⟨hhour, h⟩ := padded_append_inj (by simp) (by simp) (List.append_cancel_left h)
    obtain ⟨hminute, h⟩ := padded_append_inj (by simp) (by simp) (List.append_cancel_left h)
    have h := List.append_cancel_left h
    rw [← List.append_nil (padded 2 m.second).toList,
      ← List.append_nil (padded 2 n.second).toList] at h
    obtain ⟨hsecond, -⟩ := padded_append_inj (by simp) (by simp) h
    simp only [wholeSecond, hyear, hmonth, hday, hhour, hminute, hsecond]
  · intro h
    have hfields : m.wholeSecond.headerText = n.wholeSecond.headerText := congrArg headerText h
    exact hfields

theorem isAtom_padded (width n : Nat) : Json.IsAtom (padded width n) :=
  fun c hc => Json.isAtomLetter_of_isDigit (isDigit_of_mem_padded c hc)

theorem isAtom_yearText (year : Int) : Json.IsAtom (yearText year) := by
  unfold yearText
  split_ifs
  · exact isAtom_padded _ _
  · exact Json.isAtom_append.2 ⟨Json.isAtom_ofList (by decide), isAtom_padded _ _⟩
  · exact Json.isAtom_append.2 ⟨Json.isAtom_ofList (by decide), isAtom_padded _ _⟩

theorem bare_headerText (m : Moment) : Bare m.headerText := by
  have hyear := bare_of_isAtom (isAtom_yearText m.year)
  have hpadded : ∀ n, Bare (padded 2 n) := fun n => bare_of_isAtom (isAtom_padded 2 n)
  have hslash : Bare "/" := bare_ofList (by decide)
  have hblank : Bare " " := bare_ofList (by decide)
  have hcolon : Bare ":" := bare_ofList (by decide)
  simp only [headerText, clockText, bare_append, hyear, hpadded, hslash, hblank, hcolon, and_self]

end Moment

end ViewLayers
