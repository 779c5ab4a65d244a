import ViewLayers.Text.Word

/-!
# Text for a page head

Five characters have a meaning in markup and are written as entities. An ampersand that
already begins an entity, an optional hash, word characters and a semicolon, is kept, so
written entities survive. This is said twice: every special character is escaped and the
ampersands of entities are then restored; or one reading decides about each ampersand by
what follows it.
-/

namespace ViewLayers.Text

def markupEntity (c : Char) : List Char :=
  match c with
  | '&' => "&amp;".toList
  | '<' => "&lt;".toList
  | '>' => "&gt;".toList
  | '"' => "&quot;".toList
  | '\'' => "&#039;".toList
  | c => [c]

def escapeMarkup (s : List Char) : List Char := s.flatMap markupEntity

def entityTail? (s : List Char) : Option (List Char × List Char) :=
  let hash := s.takeWhile (· = '#') |>.take 1
  let body := s.drop hash.length
  let word := body.takeWhile isWord
  match word, body.dropWhile isWord with
  | _ :: _, ';' :: rest => some (hash ++ word ++ [';'], rest)
  | _, _ => none

theorem entityTail?_length {s tail rest : List Char} (h : entityTail? s = some (tail, rest)) :
    rest.length < s.length := by
  unfold entityTail? at h
  simp only at h
  split at h
  · rename_i w rest' hw hd
    simp only [Option.some.injEq, Prod.mk.injEq] at h
    obtain ⟨-, rfl⟩ := h
    have h₁ := (List.dropWhile_suffix isWord
      (l := s.drop (s.takeWhile (· = '#') |>.take 1).length)).length_le
    rw [hd] at h₁
    simp only [List.length_cons, List.length_drop] at h₁
    omega
  · simp at h

def restoreEntities : List Char → List Char
  | [] => []
  | c :: rest =>
    if c = '&' ∧ rest.take 4 = ['a', 'm', 'p', ';'] then
      match _h : entityTail? (rest.drop 4) with
      | some (tail, after) => '&' :: (tail ++ restoreEntities after)
      | none => c :: restoreEntities rest
    else c :: restoreEntities rest
termination_by s => s.length
decreasing_by
  · have := entityTail?_length _h
    simp only [List.length_drop] at this
    simp only [List.length_cons]
    omega
  · exact Nat.lt_succ_self _
  · exact Nat.lt_succ_self _

def metaContent (s : String) : String := String.ofList (restoreEntities (escapeMarkup s.toList))

def metaContentOnce : List Char → List Char
  | [] => []
  | c :: rest =>
    if c = '&' ∧ (entityTail? rest).isSome then c :: metaContentOnce rest
    else markupEntity c ++ metaContentOnce rest

end ViewLayers.Text
