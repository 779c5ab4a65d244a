import ViewLayers.Text.Lowercase

/-!
# Placeholders

A placeholder is a name between percent signs: at least one character, none of them a line
feed, and no percent sign after the first. The text is read from the left; a name that is
known gives way to its value, which is not read again, and any other placeholder stays. A
percent sign that opens no placeholder stands for itself.
-/

namespace ViewLayers.Text

/-- The characters up to the next percent sign on this line, and the text after it. -/
def upToMark : List Char → Option (List Char × List Char)
  | [] => none
  | c :: rest =>
    if c = '%' then some ([], rest)
    else if c = '\n' then none
    else (upToMark rest).map fun (name, after) => (c :: name, after)

def placeholder? : List Char → Option (List Char × List Char)
  | [] => none
  | c :: rest =>
    if c = '\n' then none
    else (upToMark rest).map fun (name, after) => (c :: name, after)

theorem upToMark_length {s name after : List Char} (h : upToMark s = some (name, after)) :
    after.length < s.length := by
  induction s generalizing name with
  | nil => simp [upToMark] at h
  | cons c rest ih =>
    simp only [upToMark] at h
    split at h
    · simp_all
    · split at h
      · simp at h
      · obtain ⟨⟨n, a⟩, hn, he⟩ := Option.map_eq_some_iff.1 h
        simp only [Prod.mk.injEq] at he
        obtain ⟨-, rfl⟩ := he
        exact Nat.lt_succ_of_lt (ih hn)

theorem placeholder?_length {s name after : List Char}
    (h : placeholder? s = some (name, after)) : after.length < s.length := by
  cases s with
  | nil => simp [placeholder?] at h
  | cons c rest =>
    simp only [placeholder?] at h
    split at h
    · simp at h
    · obtain ⟨⟨n, a⟩, hn, he⟩ := Option.map_eq_some_iff.1 h
      simp only [Prod.mk.injEq] at he
      obtain ⟨-, rfl⟩ := he
      exact Nat.lt_succ_of_lt (upToMark_length hn)

def replacement (lookup : String → Option String) (name : List Char) : List Char :=
  match lookup (lowercase (String.ofList name)) with
  | some value => value.toList
  | none => '%' :: (name ++ ['%'])

def substituteChars (lookup : String → Option String) : List Char → List Char
  | [] => []
  | c :: rest =>
    if c = '%' then
      match _h : placeholder? rest with
      | some (name, after) => replacement lookup name ++ substituteChars lookup after
      | none => c :: substituteChars lookup rest
    else c :: substituteChars lookup rest
termination_by s => s.length
decreasing_by
  · exact Nat.lt_succ_of_lt (placeholder?_length _h)
  · exact Nat.lt_succ_self _
  · exact Nat.lt_succ_self _

def substitute (lookup : String → Option String) (s : String) : String :=
  String.ofList (substituteChars lookup s.toList)

end ViewLayers.Text
