import Mathlib.Tactic.SplitIfs
import ViewLayers.Json.Lexeme

/-!
# Words and numbers of a document

Outside of its texts a document is written with words and numbers, and these with letters, digits,
signs and points alone.
-/

namespace ViewLayers.Json

open Lexeme (isAtomLetter)

def IsAtom (s : String) : Prop := ∀ c ∈ s.toList, isAtomLetter c = true

theorem isAtom_ofList {cs : List Char} (h : cs.all isAtomLetter = true) :
    IsAtom (String.ofList cs) := by
  intro c hc
  rw [String.toList_ofList] at hc
  exact List.all_eq_true.1 h c hc

theorem isAtom_append {s t : String} : IsAtom (s ++ t) ↔ IsAtom s ∧ IsAtom t := by
  simp only [IsAtom, String.toList_append, List.mem_append, or_imp, forall_and]

theorem ascii_of_isAtomLetter {c : Char} (h : isAtomLetter c = true) :
    0x20 < c.toNat ∧ c.toNat < 0x7f := by
  change (decide (c.val ≥ 'A'.val ∧ c.val ≤ 'Z'.val) || c.val ≥ 'a'.val && c.val ≤ 'z'.val ||
    c.val ≥ '0'.val && c.val ≤ '9'.val || c = '+' || c = '-' || c = '.') = true at h
  simp only [Bool.or_eq_true, Bool.and_eq_true, decide_eq_true_eq, ge_iff_le,
    UInt32.le_iff_toNat_le, Char.reduceVal, UInt32.reduceToNat, Char.toNat_val] at h
  rcases h with ((((h | h) | h) | rfl) | rfl) | rfl
  · omega
  · omega
  · omega
  · decide
  · decide
  · decide

theorem isAtomLetter_of_isDigit {c : Char} (h : c.isDigit = true) : isAtomLetter c = true := by
  simp [isAtomLetter, Char.isAlphanum, h]

theorem isAtomLetter_of_mem_natText {n : Nat} {c : Char} (h : c ∈ (toString n).toList) :
    isAtomLetter c = true := by
  rw [Nat.toString_eq_repr, Nat.toList_repr] at h
  exact isAtomLetter_of_isDigit (Nat.isDigit_of_mem_toDigits (by decide) (by decide) h)

theorem isAtom_natText (n : Nat) : IsAtom (toString n) := fun _ h => isAtomLetter_of_mem_natText h

theorem isAtom_intText (n : Int) : IsAtom (toString n) := by
  rw [Int.toString_eq_repr, Int.repr_eq_if]
  split_ifs with h
  · exact isAtom_natText n.toNat
  · exact isAtom_append.2 ⟨isAtom_ofList (by decide), isAtom_natText (-n).toNat⟩

theorem isAtom_boolText (b : Bool) : IsAtom (boolText b) := by
  cases b <;> exact isAtom_ofList (by decide)

section Floats

theorem isAtomLetter_of_mem_positional {digits : List Char}
    (hd : ∀ c ∈ digits, isAtomLetter c = true) (point : Int) :
    ∀ c ∈ FloatLayout.positional digits point, isAtomLetter c = true := by
  have hzero : ∀ n, ∀ c ∈ List.replicate n '0', isAtomLetter c = true := by
    intro n c hc
    rw [List.eq_of_mem_replicate hc]
    decide
  intro c hc
  unfold FloatLayout.positional at hc
  split_ifs at hc
  · simp only [List.mem_cons, List.mem_append] at hc
    rcases hc with rfl | rfl | hc | hc
    · decide
    · decide
    · exact hzero _ c hc
    · exact hd c hc
  · simp only [List.mem_append, List.mem_cons, List.not_mem_nil, or_false] at hc
    rcases hc with (hc | hc) | rfl | rfl
    · exact hd c hc
    · exact hzero _ c hc
    · decide
    · decide
  · simp only [List.mem_append, List.mem_cons] at hc
    rcases hc with hc | rfl | hc
    · exact hd c (List.mem_of_mem_take hc)
    · decide
    · exact hd c (List.mem_of_mem_drop hc)

variable {layout : FloatLayout} (hplus : IsAtom layout.exponentPlus)
include hplus

theorem isAtomLetter_of_mem_scientific {digits : List Char}
    (hd : ∀ c ∈ digits, isAtomLetter c = true) (exponent : Int) :
    ∀ c ∈ layout.scientific digits exponent, isAtomLetter c = true := by
  have hsign : IsAtom (if exponent < 0 then "-" else layout.exponentPlus) := by
    split_ifs
    · exact isAtom_ofList (by decide)
    · exact hplus
  intro c hc
  simp only [FloatLayout.scientific, List.mem_append, List.mem_cons] at hc
  rcases hc with ((hc | hc) | rfl | hc) | hc
  · exact hd c (List.mem_of_mem_take hc)
  · split at hc
    · exact absurd hc List.not_mem_nil
    · rcases List.mem_cons.1 hc with rfl | hc
      · decide
      · exact hd c (List.mem_of_mem_drop hc)
  · decide
  · exact hsign c hc
  · exact isAtomLetter_of_mem_natText hc

theorem isAtomLetter_of_mem_finite (x : Binary64) :
    ∀ c ∈ layout.finite x, isAtomLetter c = true := by
  have hd : ∀ c ∈ (toString x.shortest.digits).toList, isAtomLetter c = true :=
    fun _ h => isAtomLetter_of_mem_natText h
  have hbody : ∀ first : Int, ∀ c ∈
      (if layout.leastPositional ≤ first ∧ first ≤ layout.greatestPositional then
        FloatLayout.positional (toString x.shortest.digits).toList (first + 1)
      else layout.scientific (toString x.shortest.digits).toList first),
      isAtomLetter c = true := by
    intro first
    split_ifs
    · exact isAtomLetter_of_mem_positional hd (first + 1)
    · exact isAtomLetter_of_mem_scientific hplus hd first
  intro c hc
  cases hn : x.isNegative with
  | true =>
    simp only [FloatLayout.finite, hn, ↓reduceIte] at hc
    rcases List.mem_cons.1 hc with rfl | hc
    · decide
    · exact hbody _ c hc
  | false =>
    simp only [FloatLayout.finite, hn, ↓reduceIte, Bool.false_eq_true] at hc
    exact hbody _ c hc

end Floats

theorem isAtom_floatText (x : Binary64) : IsAtom (floatText x) := by
  unfold floatText FloatLayout.text
  have hnull : IsAtom "null" := isAtom_ofList (by decide)
  have hplus : IsAtom "+" := isAtom_ofList (by decide)
  split_ifs
  · exact hnull
  · exact hnull
  · exact hnull
  · intro c hc
    rw [String.toList_ofList] at hc
    exact isAtomLetter_of_mem_finite hplus x c hc

section NotEmpty

theorem toList_natText_ne_nil (n : Nat) : (toString n).toList ≠ [] := by
  rw [Nat.toString_eq_repr, Nat.toList_repr]
  exact Nat.toDigits_ne_nil

theorem toList_intText_ne_nil (n : Int) : (toString n).toList ≠ [] := by
  rw [Int.toString_eq_repr, Int.repr_eq_if]
  split_ifs with h
  · exact toList_natText_ne_nil n.toNat
  · simp

theorem positional_ne_nil (digits : List Char) (point : Int) :
    FloatLayout.positional digits point ≠ [] := by
  unfold FloatLayout.positional
  split_ifs <;> simp

theorem finite_ne_nil (layout : FloatLayout) (x : Binary64) : layout.finite x ≠ [] := by
  have hbody : ∀ (digits : List Char) (first : Int),
      (if layout.leastPositional ≤ first ∧ first ≤ layout.greatestPositional then
        FloatLayout.positional digits (first + 1)
      else layout.scientific digits first) ≠ [] := by
    intro digits first
    split_ifs
    · exact positional_ne_nil digits (first + 1)
    · simp [FloatLayout.scientific]
  unfold FloatLayout.finite
  cases x.isNegative with
  | true => exact List.cons_ne_nil _ _
  | false => exact hbody _ _

theorem toList_floatText_ne_nil (x : Binary64) : (floatText x).toList ≠ [] := by
  unfold floatText FloatLayout.text
  split_ifs
  · decide
  · decide
  · decide
  · rw [String.toList_ofList]
    exact finite_ne_nil _ x

end NotEmpty

end ViewLayers.Json
