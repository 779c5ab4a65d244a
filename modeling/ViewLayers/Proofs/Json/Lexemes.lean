import ViewLayers.Proofs.Json.Atoms

/-!
# Lexemes of a written document

A document is written as its lexemes, be it in the compact or in the pretty form. A word or number
ends only where something else begins, so a text is told apart from one that leaves nothing
pending behind it.
-/

namespace ViewLayers

namespace Json

mutual

def lexemes : Json → List Lexeme
  | .null => [.atom "null".toList]
  | .bool b => [.atom (boolText b).toList]
  | .int n => [.atom (toString n).toList]
  | .float x => [.atom (floatText x).toList]
  | .string s => [.text s]
  | .array items => .openArray :: (lexemesOfItems items ++ [.closeArray])
  | .object members => .openObject :: (lexemesOfMembers members ++ [.closeObject])

def lexemesOfItems : List Json → List Lexeme
  | [] => []
  | [d] => d.lexemes
  | d :: ds => d.lexemes ++ .comma :: lexemesOfItems ds

def lexemesOfMembers : List (String × Json) → List Lexeme
  | [] => []
  | [(k, d)] => .text k :: .colon :: d.lexemes
  | (k, d) :: ms => .text k :: .colon :: (d.lexemes ++ .comma :: lexemesOfMembers ms)

end

theorem lexemesOfItems_cons_cons (d e : Json) (ds : List Json) :
    lexemesOfItems (d :: e :: ds) = d.lexemes ++ .comma :: lexemesOfItems (e :: ds) := by
  rw [lexemesOfItems]
  simp

theorem lexemesOfMembers_cons_cons (m n : String × Json) (ms : List (String × Json)) :
    lexemesOfMembers (m :: n :: ms) =
      lexemesOfMembers [m] ++ .comma :: lexemesOfMembers (n :: ms) := by
  rw [lexemesOfMembers, lexemesOfMembers] <;> simp

end Json

namespace Lexeme

namespace Scan

def settled : Scan → Scan
  | ⟨found, .atom letters⟩ => ⟨.atom letters.reverse :: found, .nothing⟩
  | s => s

end Scan

/-- The lexemes of a text are found behind any others; a word or number may still be pending. -/
def Scans (s : String) (ls : List Lexeme) : Prop :=
  ∀ found, ∃ r, s.toList.foldlM step ⟨found, .nothing⟩ = some r ∧
    r.settled = ⟨ls.reverse ++ found, .nothing⟩

def ScansWhole (s : String) (ls : List Lexeme) : Prop :=
  ∀ found, s.toList.foldlM step ⟨found, .nothing⟩ = some ⟨ls.reverse ++ found, .nothing⟩

section Scans

variable {s t : String} {ls ms : List Lexeme}

theorem step_settled (r : Scan) {c : Char} (hc : isAtomLetter c = false) :
    step r.settled c = step r c := by
  obtain ⟨found, pending⟩ := r
  cases pending with
  | atom letters =>
    rw [Scan.settled, step, step, hc]
    rfl
  | _ => rfl

theorem ScansWhole.scans (h : ScansWhole s ls) : Scans s ls := fun found => ⟨_, h found, rfl⟩

theorem ScansWhole.append_scans (h : ScansWhole s ls) (ht : Scans t ms) :
    Scans (s ++ t) (ls ++ ms) := by
  intro found
  obtain ⟨r, hr, hsettled⟩ := ht (ls.reverse ++ found)
  refine ⟨r, ?_, by rw [hsettled, List.reverse_append, List.append_assoc]⟩
  rw [String.toList_append, List.foldlM_append, h found]
  exact hr

theorem ScansWhole.append (h : ScansWhole s ls) (ht : ScansWhole t ms) :
    ScansWhole (s ++ t) (ls ++ ms) := by
  intro found
  rw [String.toList_append, List.foldlM_append, h found, List.reverse_append, List.append_assoc]
  exact ht (ls.reverse ++ found)

theorem Scans.append_whole (h : Scans s ls) (ht : ScansWhole t ms) {c : Char} {cs : List Char}
    (htext : t.toList = c :: cs) (hc : isAtomLetter c = false) :
    ScansWhole (s ++ t) (ls ++ ms) := by
  intro found
  obtain ⟨r, hr, hsettled⟩ := h found
  have hrest := ht (ls.reverse ++ found)
  rw [← hsettled, htext, List.foldlM_cons, step_settled r hc, ← List.foldlM_cons, ← htext] at hrest
  rw [String.toList_append, List.foldlM_append, hr, List.reverse_append, List.append_assoc]
  exact hrest

theorem Scans.comma (h : Scans s ls) : ScansWhole (s ++ ",") (ls ++ [.comma]) :=
  h.append_whole (fun _ => rfl) rfl (by decide)

theorem ofText?_of_scans (h : Scans s ls) : ofText? s = some ls := by
  obtain ⟨r, hr, hsettled⟩ := h []
  have hfinish : ∀ r : Scan, r.settled = ⟨ls.reverse, .nothing⟩ → finish r = some ls := by
    rintro ⟨found, pending⟩ hsettled
    cases pending with
    | nothing | atom =>
      simp only [Scan.settled, Scan.mk.injEq, and_true] at hsettled
      simp only [finish, hsettled, List.reverse_reverse]
    | _ => cases hsettled
  rw [ofText?, hr, Option.bind_some]
  exact hfinish r (by rw [hsettled, List.append_nil])

end Scans

section Words

theorem scansWhole_of_spaces {s : String} (h : ∀ c ∈ s.toList, isSpace c = true) :
    ScansWhole s [] := by
  intro found
  generalize s.toList = cs at h
  induction cs with
  | nil => rfl
  | cons c cs ih =>
    obtain ⟨hc, hcs⟩ := List.forall_mem_cons.1 h
    have hstep : step ⟨found, .nothing⟩ c = some ⟨found, .nothing⟩ := by
      rw [step, start, hc]
      rfl
    rw [List.foldlM_cons, hstep]
    exact ih hcs

theorem start_of_isAtomLetter {c : Char} (h : isAtomLetter c = true) (found : List Lexeme) :
    start found c = some ⟨found, .atom [c]⟩ := by
  have hspace : isSpace c = false := by
    rw [← Bool.not_eq_true]
    intro hspace
    simp only [isSpace, Bool.or_eq_true, decide_eq_true_eq] at hspace
    rcases hspace with ((rfl | rfl) | rfl) | rfl <;> exact absurd h (by decide)
  have hquote : c ≠ '"' := by
    rintro rfl
    exact absurd h (by decide)
  simp [start, hspace, hquote, h]

theorem foldlM_step_atom {cs : List Char} (h : ∀ c ∈ cs, isAtomLetter c = true)
    (found : List Lexeme) (letters : List Char) :
    cs.foldlM step ⟨found, .atom letters⟩ = some ⟨found, .atom (cs.reverse ++ letters)⟩ := by
  induction cs generalizing letters with
  | nil => rfl
  | cons c cs ih =>
    obtain ⟨hc, hcs⟩ := List.forall_mem_cons.1 h
    have hstep : step ⟨found, .atom letters⟩ c = some ⟨found, .atom (c :: letters)⟩ := by
      rw [step, hc]
      rfl
    rw [List.foldlM_cons, hstep, List.reverse_cons, List.append_assoc]
    exact ih hcs (c :: letters)

theorem scans_of_isAtom {s : String} (h : Json.IsAtom s) (hne : s.toList ≠ []) :
    Scans s [.atom s.toList] := by
  intro found
  unfold Json.IsAtom at h
  generalize s.toList = cs at h hne
  cases cs with
  | nil => exact absurd rfl hne
  | cons c cs =>
    obtain ⟨hc, hcs⟩ := List.forall_mem_cons.1 h
    refine ⟨⟨found, .atom (cs.reverse ++ [c])⟩, ?_, by simp [Scan.settled]⟩
    rw [List.foldlM_cons, step, start_of_isAtomLetter hc]
    exact foldlM_step_atom hcs found [c]

end Words

section Texts

theorem foldlM_step_unicode {n : Nat} (h : n < 0x20) (found : List Lexeme) (letters : List Char) :
    ('\\' :: 'u' :: Json.hexDigits 4 n).foldlM step ⟨found, .text letters⟩ =
      some ⟨found, .text (Char.ofNat n :: letters)⟩ := by
  have hread : ∀ n < 0x20, readDigits? 16 (Json.hexDigits 4 n) = some n := by decide
  have hunit : endUnit letters none n = some (.text (Char.ofNat n :: letters)) := by
    have hlead : isLead n = false := by simp [isLead]; omega
    have htrail : isTrail n = false := by simp [isTrail]; omega
    rw [endUnit, hlead, htrail]
    rfl
  have hread := hread n h
  have hfour : Json.hexDigits 4 n = [Nat.digitChar (n / 16 / 16 / 16 % 16),
      Nat.digitChar (n / 16 / 16 % 16), Nat.digitChar (n / 16 % 16), Nat.digitChar (n % 16)] := rfl
  rw [hfour] at hread ⊢
  simp [step, hread, hunit]

theorem foldlM_step_escapedChar (c : Char) (found : List Lexeme) (letters : List Char) :
    (Json.escapedChar c).foldlM step ⟨found, .text letters⟩ =
      some ⟨found, .text (c :: letters)⟩ := by
  unfold Json.escapedChar
  split_ifs with h₁ h₂ h₃ h₄ h₅ h₆ h₇ h₈
  · subst h₁; rfl
  · subst h₂; rfl
  · subst h₃; rfl
  · subst h₄; rfl
  · subst h₅; rfl
  · subst h₆; rfl
  · subst h₇; rfl
  · rw [foldlM_step_unicode h₈, Char.ofNat_toNat]
  · simp [step, h₁, h₂, h₈]

theorem scansWhole_quoted (s : String) : ScansWhole (Json.quoted s) [.text s] := by
  have hbody : ∀ (cs : List Char) (found : List Lexeme) (letters : List Char),
      (cs.flatMap Json.escapedChar).foldlM step ⟨found, .text letters⟩ =
        some ⟨found, .text (cs.reverse ++ letters)⟩ := by
    intro cs found
    induction cs with
    | nil => exact fun _ => rfl
    | cons c cs ih =>
      intro letters
      rw [List.flatMap_cons, List.foldlM_append, foldlM_step_escapedChar, List.reverse_cons,
        List.append_assoc]
      exact ih (c :: letters)
  intro found
  have hopen : step ⟨found, .nothing⟩ '"' = some ⟨found, .text []⟩ := rfl
  rw [Json.quoted, String.toList_ofList, List.foldlM_cons, hopen, Option.bind_eq_bind,
    Option.bind_some, List.foldlM_append, hbody]
  simp [step]

end Texts

end Lexeme

namespace Json

open Lexeme (Scans ScansWhole)

section Marks

theorem scansWhole_openArray : ScansWhole "[" [.openArray] := fun _ => rfl

theorem scansWhole_openObject : ScansWhole "\x7b" [.openObject] := fun _ => rfl

theorem scans_member {k s t : String} {d : Json} (hs : ScansWhole s [.colon])
    (ht : Scans t d.lexemes) : Scans (quoted k ++ s ++ t) (lexemesOfMembers [(k, d)]) := by
  rw [lexemesOfMembers]
  exact ((Lexeme.scansWhole_quoted k).append hs).append_scans ht

theorem scansWhole_array {s : String} {items : List Json} (h : Scans s (lexemesOfItems items)) :
    ScansWhole ("[" ++ s ++ "]") (array items).lexemes := by
  have hclose : ScansWhole "]" [.closeArray] := fun _ => rfl
  rw [lexemes]
  exact (scansWhole_openArray.append_scans h).append_whole hclose rfl (by decide)

theorem scansWhole_object {s : String} {members : List (String × Json)}
    (h : Scans s (lexemesOfMembers members)) :
    ScansWhole ("\x7b" ++ s ++ "\x7d") (object members).lexemes := by
  have hclose : ScansWhole "\x7d" [.closeObject] := fun _ => rfl
  rw [lexemes]
  exact (scansWhole_openObject.append_scans h).append_whole hclose rfl (by decide)

end Marks

section Compact

mutual

theorem scans_compact : ∀ d : Json, Scans d.compact d.lexemes
  | .null => by
    rw [compact, lexemes]
    exact Lexeme.scans_of_isAtom (isAtom_ofList (by decide)) (by decide)
  | .bool b => by
    rw [compact, lexemes]
    exact Lexeme.scans_of_isAtom (isAtom_boolText b) (by cases b <;> decide)
  | .int n => by
    rw [compact, lexemes]
    exact Lexeme.scans_of_isAtom (isAtom_intText n) (toList_intText_ne_nil n)
  | .float x => by
    rw [compact, lexemes]
    exact Lexeme.scans_of_isAtom (isAtom_floatText x) (toList_floatText_ne_nil x)
  | .string s => by
    rw [compact, lexemes]
    exact (Lexeme.scansWhole_quoted s).scans
  | .array items => by
    rw [compact]
    exact (scansWhole_array (scans_compactItems items)).scans
  | .object members => by
    rw [compact]
    exact (scansWhole_object (scans_compactMembers members)).scans

theorem scans_compactItems : ∀ ds : List Json, Scans (compactItems ds) (lexemesOfItems ds)
  | [] => by
    rw [compactItems, lexemesOfItems]
    exact ScansWhole.scans fun _ => rfl
  | [d] => by
    rw [compactItems, lexemesOfItems]
    exact scans_compact d
  | d :: e :: ds => by
    rw [compactItems_cons_cons, lexemesOfItems_cons_cons, List.append_cons]
    exact (scans_compact d).comma.append_scans (scans_compactItems (e :: ds))

theorem scans_compactMembers : ∀ ms : List (String × Json),
    Scans (compactMembers ms) (lexemesOfMembers ms)
  | [] => by
    rw [compactMembers, lexemesOfMembers]
    exact ScansWhole.scans fun _ => rfl
  | [(k, d)] => by
    rw [compactMembers]
    exact scans_member (fun _ => rfl) (scans_compact d)
  | (k, d) :: m :: ms => by
    have hmember := scans_member (k := k) (s := ":") (fun _ => rfl) (scans_compact d)
    rw [compactMembers_cons_cons, lexemesOfMembers_cons_cons, List.append_cons]
    exact hmember.comma.append_scans (scans_compactMembers (m :: ms))

end

end Compact

section Pretty

theorem scansWhole_newline (depth : Nat) : ScansWhole (newline depth) [] := by
  refine Lexeme.scansWhole_of_spaces fun c hc => ?_
  rw [newline, String.toList_ofList] at hc
  rcases List.mem_cons.1 hc with rfl | hc
  · rfl
  · rw [List.eq_of_mem_replicate hc]
    rfl

theorem scansWhole_append_newline {s : String} {ls : List Lexeme} (h : Scans s ls) (depth : Nat) :
    ScansWhole (s ++ newline depth) ls := by
  have hline := h.append_whole (scansWhole_newline depth) (by rw [newline, String.toList_ofList])
    (by decide)
  rwa [List.append_nil] at hline

mutual

theorem scans_prettyAt : ∀ (depth : Nat) (d : Json), Scans (prettyAt depth d) d.lexemes
  | _, .null => by rw [prettyAt, ← compact]; exact scans_compact .null
  | _, .bool b => by rw [prettyAt, ← compact]; exact scans_compact (.bool b)
  | _, .int n => by rw [prettyAt, ← compact]; exact scans_compact (.int n)
  | _, .float x => by rw [prettyAt, ← compact]; exact scans_compact (.float x)
  | _, .string s => by rw [prettyAt, ← compact]; exact scans_compact (.string s)
  | _, .array [] => by
    rw [prettyAt]
    exact ScansWhole.scans fun _ => rfl
  | depth, .array (d :: ds) => by
    have hfirst := (scansWhole_newline (depth + 1)).append_scans (scans_prettyAt (depth + 1) d)
    have hitems := scans_prettyItems (depth + 1) ds hfirst
    have harray := scansWhole_array (scansWhole_append_newline hitems depth).scans
    rw [prettyAt]
    simpa only [String.append_assoc] using harray.scans
  | _, .object [] => by
    rw [prettyAt]
    exact ScansWhole.scans fun _ => rfl
  | depth, .object ((k, d) :: ms) => by
    have hmember := scans_member (k := k) (s := ": ") (fun _ => rfl) (scans_prettyAt (depth + 1) d)
    have hfirst := (scansWhole_newline (depth + 1)).append_scans hmember
    have hmembers := scans_prettyMembers (depth + 1) ms hfirst
    have hobject := scansWhole_object (scansWhole_append_newline hmembers depth).scans
    rw [prettyAt]
    simpa only [String.append_assoc] using hobject.scans

theorem scans_prettyItems : ∀ (depth : Nat) (es : List Json) {s : String} {ls : List Lexeme}
    {d : Json}, Scans s (ls ++ d.lexemes) →
      Scans (s ++ prettyItems depth es) (ls ++ lexemesOfItems (d :: es))
  | _, [], s, ls, d, h => by
    rw [prettyItems, String.append_empty, lexemesOfItems]
    exact h
  | depth, e :: es, s, ls, d, h => by
    have hline := scansWhole_append_newline h.comma.scans depth
    have hitem := hline.append_scans (scans_prettyAt depth e)
    have hitems := scans_prettyItems depth es hitem
    rw [prettyItems, lexemesOfItems_cons_cons]
    simpa only [String.append_assoc, List.append_assoc, List.singleton_append] using hitems

theorem scans_prettyMembers : ∀ (depth : Nat) (ms : List (String × Json)) {s : String}
    {ls : List Lexeme} {m : String × Json}, Scans s (ls ++ lexemesOfMembers [m]) →
      Scans (s ++ prettyMembers depth ms) (ls ++ lexemesOfMembers (m :: ms))
  | _, [], s, ls, m, h => by
    rw [prettyMembers, String.append_empty]
    exact h
  | depth, (k, d) :: ms, s, ls, m, h => by
    have hmember := scans_member (k := k) (s := ": ") (fun _ => rfl) (scans_prettyAt depth d)
    have hline := scansWhole_append_newline h.comma.scans depth
    have hmembers := scans_prettyMembers depth ms (hline.append_scans hmember)
    rw [prettyMembers, lexemesOfMembers_cons_cons]
    simpa only [String.append_assoc, List.append_assoc, List.singleton_append] using hmembers

end

end Pretty

end Json

end ViewLayers
