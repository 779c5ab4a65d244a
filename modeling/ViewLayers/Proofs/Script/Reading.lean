import ViewLayers.Script.Literal
import Mathlib.Tactic.IntervalCases

/-!
# Literals by their grammar

A literal has a body between two single quotes: characters that stand for themselves, and escapes
of one letter or of four hexadecimal digits. A written literal is one of its text, and what a
literal spells is what is decoded from it, so a source starts with one literal at most.
-/

namespace ViewLayers.Script

def letterEscapes : List (Char × Char) :=
  [('\\', '\\'), ('\'', '\''), ('n', '\n'), ('r', '\r'), ('t', '\t')]

def hexNumber? (digits : List Char) : Option Nat :=
  digits.foldlM (fun n d => (hexValue? d).map (n * 16 + ·)) 0

/-- The body of a literal and the text that it spells. -/
inductive Spells : List Char → List Char → Prop where
  | nil : Spells [] []
  | plain {c : Char} {body text : List Char} : c ≠ '\'' → c ≠ '\\' → isLineEnd c = false →
      Spells body text → Spells (c :: body) (c :: text)
  | letter {e c : Char} {body text : List Char} : (e, c) ∈ letterEscapes →
      Spells body text → Spells ('\\' :: e :: body) (c :: text)
  | unicode {digits : List Char} {c : Char} {body text : List Char} : digits.length = 4 →
      hexNumber? digits = some c.toNat →
      Spells body text → Spells ('\\' :: 'u' :: digits ++ body) (c :: text)

def Reads (source text rest : List Char) : Prop :=
  ∃ body, Spells body text ∧ source = '\'' :: body ++ '\'' :: rest

section Written

theorem hexValue?_digitChar {n : Nat} (h : n < 16) : hexValue? (Nat.digitChar n) = some n := by
  interval_cases n <;> decide

theorem hexDigits_four (n : Nat) :
    Json.hexDigits 4 n =
      [Nat.digitChar (n / 4096 % 16), Nat.digitChar (n / 256 % 16), Nat.digitChar (n / 16 % 16),
        Nat.digitChar (n % 16)] := by
  simp [Json.hexDigits, Nat.div_div_eq_div_mul]

theorem hexNumber?_hexDigits {n : Nat} (h : n < 65536) :
    hexNumber? (Json.hexDigits 4 n) = some n := by
  have hdigit : ∀ m : Nat, hexValue? (Nat.digitChar (m % 16)) = some (m % 16) :=
    fun m => hexValue?_digitChar (Nat.mod_lt m (by decide))
  rw [hexDigits_four]
  simp only [hexNumber?, List.foldlM_cons, List.foldlM_nil, hdigit, Option.map_some,
    Option.bind_eq_bind, Option.bind_some, Option.pure_def, Option.some.injEq]
  omega

theorem toNat_lt_of_escaped {c : Char}
    (h : (Text.isControl c || c = '\u2028' || c = '\u2029') = true) : c.toNat < 65536 := by
  simp only [Text.isControl, Bool.or_eq_true, decide_eq_true_eq, Bool.and_eq_true] at h
  rcases h with (h | rfl) | rfl
  · omega
  · decide
  · decide

theorem Spells.cons_escaped (c : Char) {body text : List Char} (h : Spells body text) :
    Spells (escapedChar c ++ body) (c :: text) := by
  unfold escapedChar
  split_ifs with h₁ h₂ h₃ h₄ h₅ h₆
  · subst h₁
    exact .letter (by decide) h
  · subst h₂
    exact .letter (by decide) h
  · subst h₃
    exact .letter (by decide) h
  · subst h₄
    exact .letter (by decide) h
  · subst h₅
    exact .letter (by decide) h
  · have hlength : (Json.hexDigits 4 c.toNat).length = 4 := by
      rw [hexDigits_four]
      rfl
    exact .unicode hlength (hexNumber?_hexDigits (toNat_lt_of_escaped h₆)) h
  · refine .plain h₂ h₁ ?_ h
    simp only [Bool.or_eq_true, decide_eq_true_eq, not_or] at h₆
    simp [isLineEnd, h₃, h₄, h₆.1.2, h₆.2]

theorem spells_flatMap_escapedChar (s : List Char) : Spells (s.flatMap escapedChar) s := by
  induction s with
  | nil => exact .nil
  | cons c s ih =>
    rw [List.flatMap_cons]
    exact ih.cons_escaped c

theorem reads_encode_append (s rest : List Char) : Reads (encode s ++ rest) s rest := by
  refine ⟨_, spells_flatMap_escapedChar s, ?_⟩
  simp [encode]

end Written

section Unique

variable {body text : List Char}

theorem decodeBody_plain {c : Char} (rest : List Char) (hq : c ≠ '\'') (hb : c ≠ '\\')
    (hl : isLineEnd c = false) :
    decodeBody (c :: rest) = (decodeBody rest).map fun r => (c :: r.1, r.2) := by
  rw [decodeBody]
  · simp [hb, hl]
  · exact hq
  · intro a b d e r hc
    exact absurd hc hb
  · intro e r hc
    exact absurd hc hb

theorem decodeBody_letter {e c : Char} (h : (e, c) ∈ letterEscapes) (rest : List Char) :
    decodeBody ('\\' :: e :: rest) = (decodeBody rest).map fun r => (c :: r.1, r.2) := by
  simp only [letterEscapes, List.mem_cons, Prod.mk.injEq, List.not_mem_nil, or_false] at h
  rcases h with ⟨rfl, rfl⟩ | ⟨rfl, rfl⟩ | ⟨rfl, rfl⟩ | ⟨rfl, rfl⟩ | ⟨rfl, rfl⟩ <;>
    cases hrest : decodeBody rest <;> simp [decodeBody, hrest]

theorem decodeBody_digits {digits : List Char} {c : Char} (hlength : digits.length = 4)
    (h : hexNumber? digits = some c.toNat) (rest : List Char) :
    decodeBody ('\\' :: 'u' :: digits ++ rest) =
      (decodeBody rest).map fun r => (c :: r.1, r.2) := by
  match digits, hlength with
  | [i, j, k, l], _ =>
    simp only [hexNumber?, List.foldlM_cons, List.foldlM_nil, Option.bind_eq_bind, Option.pure_def,
      Option.bind_eq_some_iff, Option.map_eq_some_iff, Option.some.injEq] at h
    obtain ⟨_, ⟨m, hm, rfl⟩, _, ⟨n, hn, rfl⟩, _, ⟨p, hp, rfl⟩, _, ⟨q, hq, rfl⟩, hnumber⟩ := h
    rw [Nat.zero_mul, Nat.zero_add] at hnumber
    simp only [List.cons_append, List.nil_append, decodeBody, hm, hn, hp, hq]
    cases decodeBody rest with
    | none => rfl
    | some r =>
      simp only [Option.bind_eq_bind, Option.bind_some, Option.map_some, hnumber, Char.ofNat_toNat]

theorem Spells.decodeBody_append (h : Spells body text) (rest : List Char) :
    decodeBody (body ++ '\'' :: rest) = some (text, rest) := by
  induction h with
  | nil => simp [decodeBody]
  | plain hq hb hl _ ih => rw [List.cons_append, decodeBody_plain _ hq hb hl, ih, Option.map_some]
  | letter he _ ih =>
    rw [List.cons_append, List.cons_append, decodeBody_letter he, ih, Option.map_some]
  | unicode hlength hdigits _ ih =>
    rw [List.append_assoc, decodeBody_digits hlength hdigits, ih, Option.map_some]

theorem Reads.decode_eq {source rest : List Char} (h : Reads source text rest) :
    decode source = some (text, rest) := by
  obtain ⟨body, hbody, rfl⟩ := h
  exact hbody.decodeBody_append rest

end Unique

end ViewLayers.Script
