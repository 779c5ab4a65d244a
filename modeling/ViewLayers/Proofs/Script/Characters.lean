import ViewLayers.Script.Render
import ViewLayers.Proofs.Json.Atoms
import ViewLayers.Proofs.Script.Literal

/-!
# Characters of written texts

Numbers are written with bare characters, which are neither quotes nor below the blank.
Literals and JSON hold no character below the blank whatever texts stand in them, so that
none of them ever breaks a line.
-/

namespace ViewLayers.Script

def isBare (c : Char) : Bool := 0x20 ≤ c.toNat && c ≠ '\'' && c ≠ '"'

def Bare (s : String) : Prop := ∀ c ∈ s.toList, isBare c = true

def OneLine (s : String) : Prop := ∀ c ∈ s.toList, 0x20 ≤ c.toNat

theorem bare_ofList {cs : List Char} (h : cs.all isBare = true) : Bare (String.ofList cs) := by
  intro c hc
  rw [String.toList_ofList] at hc
  exact List.all_eq_true.1 h c hc

theorem blank_le_of_isBare {c : Char} (h : isBare c = true) : 0x20 ≤ c.toNat := by
  simp only [isBare, Bool.and_eq_true, decide_eq_true_eq] at h
  exact h.1.1

theorem Bare.oneLine {s : String} (h : Bare s) : OneLine s :=
  fun c hc => blank_le_of_isBare (h c hc)

theorem oneLine_ofList {cs : List Char} (h : (cs.all fun c => 0x20 ≤ c.toNat) = true) :
    OneLine (String.ofList cs) := by
  intro c hc
  rw [String.toList_ofList] at hc
  exact of_decide_eq_true (List.all_eq_true.1 h c hc)

theorem bare_append {s t : String} : Bare (s ++ t) ↔ Bare s ∧ Bare t := by
  simp only [Bare, String.toList_append, List.mem_append, or_imp, forall_and]

theorem oneLine_append {s t : String} : OneLine (s ++ t) ↔ OneLine s ∧ OneLine t := by
  simp only [OneLine, String.toList_append, List.mem_append, or_imp, forall_and]

theorem OneLine.lineFeed_notMem {s : String} (h : OneLine s) : '\n' ∉ s.toList := by
  intro hc
  exact absurd (h _ hc) (by decide)

section Numbers

theorem isBare_of_isAtomLetter {c : Char} (h : Lexeme.isAtomLetter c = true) :
    isBare c = true := by
  have hlow : 0x20 ≤ c.toNat := (Json.ascii_of_isAtomLetter h).1.le
  have hquote : c ≠ '\'' := by rintro rfl; exact absurd h (by decide)
  have hdouble : c ≠ '"' := by rintro rfl; exact absurd h (by decide)
  simp [isBare, hquote, hdouble, hlow]

theorem bare_of_isAtom {s : String} (h : Json.IsAtom s) : Bare s :=
  fun c hc => isBare_of_isAtomLetter (h c hc)

end Numbers

section Quoted

theorem isBare_digitChar {n : Nat} (h : n < 16) : isBare (Nat.digitChar n) = true := by
  interval_cases n <;> decide

theorem digitChar_ne_backslash {n : Nat} (h : n < 16) : Nat.digitChar n ≠ '\\' := by
  interval_cases n <;> decide

theorem exists_of_mem_hexDigits {c : Char} :
    ∀ {width n : Nat}, c ∈ Json.hexDigits width n → ∃ d < 16, c = Nat.digitChar d
  | 0, _, h => absurd h List.not_mem_nil
  | width + 1, n, h => by
    rw [Json.hexDigits, List.mem_append, List.mem_singleton] at h
    rcases h with h | rfl
    · exact exists_of_mem_hexDigits h
    · exact ⟨n % 16, Nat.mod_lt _ (by decide), rfl⟩

theorem isBare_of_mem_hexDigits {c : Char} {width n : Nat} (h : c ∈ Json.hexDigits width n) :
    isBare c = true := by
  obtain ⟨d, hd, rfl⟩ := exists_of_mem_hexDigits h
  exact isBare_digitChar hd

theorem blank_le_of_mem_escape {c : Char} (h : 0x20 ≤ c.toNat) :
    ∀ d ∈ ['\\', c], 0x20 ≤ d.toNat := by
  simp only [List.forall_mem_cons]
  exact ⟨by decide, h, by simp⟩

theorem blank_le_of_mem_unicode {n : Nat} :
    ∀ d ∈ '\\' :: 'u' :: Json.hexDigits 4 n, 0x20 ≤ d.toNat := by
  simp only [List.forall_mem_cons]
  exact ⟨by decide, by decide, fun _ h => blank_le_of_isBare (isBare_of_mem_hexDigits h)⟩

theorem blank_le_of_mem_escapedChar (c : Char) : ∀ d ∈ escapedChar c, 0x20 ≤ d.toNat := by
  unfold escapedChar
  split_ifs with _ _ _ _ _ hu
  · exact blank_le_of_mem_escape (by decide)
  · exact blank_le_of_mem_escape (by decide)
  · exact blank_le_of_mem_escape (by decide)
  · exact blank_le_of_mem_escape (by decide)
  · exact blank_le_of_mem_escape (by decide)
  · exact blank_le_of_mem_unicode
  · simp only [Text.isControl, Bool.or_eq_true, decide_eq_true_eq, not_or, not_lt] at hu
    exact List.forall_mem_singleton.2 hu.1.1.1

theorem blank_le_of_mem_jsonEscapedChar (c : Char) :
    ∀ d ∈ Json.escapedChar c, 0x20 ≤ d.toNat := by
  unfold Json.escapedChar
  split_ifs with _ _ _ _ _ _ _ hu
  · exact blank_le_of_mem_escape (by decide)
  · exact blank_le_of_mem_escape (by decide)
  · exact blank_le_of_mem_escape (by decide)
  · exact blank_le_of_mem_escape (by decide)
  · exact blank_le_of_mem_escape (by decide)
  · exact blank_le_of_mem_escape (by decide)
  · exact blank_le_of_mem_escape (by decide)
  · exact blank_le_of_mem_unicode
  · exact List.forall_mem_singleton.2 (not_lt.1 hu)

theorem oneLine_literal (s : String) : OneLine (literal s) := by
  intro c hc
  rw [toList_literal, encode, List.mem_cons, List.mem_append, List.mem_flatMap,
    List.mem_singleton] at hc
  rcases hc with rfl | ⟨d, _, hd⟩ | rfl
  · decide
  · exact blank_le_of_mem_escapedChar d c hd
  · decide

theorem oneLine_quoted (s : String) : OneLine (Json.quoted s) := by
  intro c hc
  rw [Json.quoted, String.toList_ofList, List.mem_cons, List.mem_append, List.mem_flatMap,
    List.mem_singleton] at hc
  rcases hc with rfl | ⟨d, _, hd⟩ | rfl
  · decide
  · exact blank_le_of_mem_jsonEscapedChar d c hd
  · decide

theorem oneLine_optionalLiteral (s : Option String) : OneLine (optionalLiteral s) := by
  cases s with
  | none => exact oneLine_ofList (by decide)
  | some s => exact oneLine_literal s

mutual

theorem oneLine_compact : ∀ v : Json, OneLine v.compact
  | .null => by rw [Json.compact]; exact oneLine_ofList (by decide)
  | .bool b => by rw [Json.compact]; exact (bare_of_isAtom (Json.isAtom_boolText b)).oneLine
  | .int n => by rw [Json.compact]; exact (bare_of_isAtom (Json.isAtom_intText n)).oneLine
  | .float x => by rw [Json.compact]; exact (bare_of_isAtom (Json.isAtom_floatText x)).oneLine
  | .string s => by rw [Json.compact]; exact oneLine_quoted s
  | .array items => by
    rw [Json.compact, oneLine_append, oneLine_append]
    exact ⟨⟨oneLine_ofList (by decide), oneLine_compactItems items⟩, oneLine_ofList (by decide)⟩
  | .object members => by
    rw [Json.compact, oneLine_append, oneLine_append]
    exact ⟨⟨oneLine_ofList (by decide), oneLine_compactMembers members⟩, oneLine_ofList (by decide)⟩

theorem oneLine_compactItems : ∀ vs : List Json, OneLine (Json.compactItems vs)
  | [] => by rw [Json.compactItems]; exact oneLine_ofList (by decide)
  | [v] => by rw [Json.compactItems]; exact oneLine_compact v
  | v :: w :: vs => by
    rw [Json.compactItems_cons_cons, oneLine_append, oneLine_append]
    exact ⟨⟨oneLine_compact v, oneLine_ofList (by decide)⟩, oneLine_compactItems (w :: vs)⟩

theorem oneLine_compactMembers : ∀ ms : List (String × Json), OneLine (Json.compactMembers ms)
  | [] => by rw [Json.compactMembers]; exact oneLine_ofList (by decide)
  | [(k, v)] => by
    rw [Json.compactMembers, oneLine_append, oneLine_append]
    exact ⟨⟨oneLine_quoted k, oneLine_ofList (by decide)⟩, oneLine_compact v⟩
  | (k, v) :: m :: ms => by
    rw [Json.compactMembers_cons_cons, oneLine_append, oneLine_append, oneLine_append,
      oneLine_append]
    exact ⟨⟨⟨⟨oneLine_quoted k, oneLine_ofList (by decide)⟩, oneLine_compact v⟩,
      oneLine_ofList (by decide)⟩, oneLine_compactMembers (m :: ms)⟩

end

theorem oneLine_recordLiteral (r : Record) : OneLine (recordLiteral r) :=
  oneLine_compact (Json.ofRecord r)

theorem oneLine_valueLiteral : ∀ v : Value, OneLine (valueLiteral v)
  | .string s => by rw [valueLiteral]; exact oneLine_literal s
  | .tagged _ v => by rw [valueLiteral]; exact oneLine_valueLiteral v
  | .null => by rw [valueLiteral]; exact oneLine_ofList (by decide)
  | .bool _ | .int _ | .float _ | .list _ | .record _ => by
    rw [valueLiteral]
    exact oneLine_compact _

end Quoted

end ViewLayers.Script
