import ViewLayers.Error

/-!
# Path patterns

In a pattern `?` stands for one character, `*` for any number of them, `[ab]` and `[!a-z]` for
one that is or is not in a set, and the component `**` for directories at any depth. There is
no escape: a bracket or star is named by a set of its own.
-/

namespace ViewLayers

inductive Wildcard where
  | letter (c : Char)
  | anyLetter
  | anything
  | oneOf (isMember : Bool) (ranges : List (Char × Char))
  | anyDepth
  deriving DecidableEq, Repr

/-- A component of a pattern: a plain name, a name with wildcards, or any depth. -/
inductive PathPart where
  | name (s : String)
  | wild (steps : List Wildcard)
  | anyDepth
  deriving DecidableEq, Repr

structure PathPattern where
  parts : List PathPart
  onlyDirectories : Bool

namespace Wildcard

def ranges : List Char → List (Char × Char)
  | a :: '-' :: b :: rest => (a, b) :: ranges rest
  | a :: rest => (a, a) :: ranges rest
  | [] => []

/-- Splits a set at its bracket. The first character always belongs to it. -/
def splitSet? (cs : List Char) : Option (List Char × List Char) :=
  match cs with
  | [] => none
  | c :: rest =>
    match rest.dropWhile (· ≠ ']') with
    | [] => none
    | _ :: after => some (c :: rest.takeWhile (· ≠ ']'), after)

theorem length_of_splitSet? {cs set after : List Char} (h : splitSet? cs = some (set, after)) :
    after.length < cs.length := by
  unfold splitSet? at h
  split at h
  · simp at h
  · rename_i c rest
    split at h
    · simp at h
    · rename_i d more heq
      have := (List.dropWhile_suffix (l := rest) (fun x => decide (x ≠ ']'))).length_le
      simp_all
      omega

def readSet? (cs : List Char) : Option (Wildcard × List Char) :=
  match cs with
  | '!' :: rest => (splitSet? rest).map fun (set, after) => (.oneOf false (ranges set), after)
  | _ => (splitSet? cs).map fun (set, after) => (.oneOf true (ranges set), after)

theorem length_of_readSet? {cs after : List Char} {w : Wildcard}
    (h : readSet? cs = some (w, after)) : after.length < cs.length := by
  unfold readSet? at h
  split at h <;> obtain ⟨⟨set, more⟩, hs, h⟩ := Option.map_eq_some_iff.1 h <;>
    have := length_of_splitSet? hs <;> simp_all
  omega

def read (position : Nat) (before : Option Char) (cs : List Char) :
    Except (Nat × PatternFault) (List Wildcard) :=
  match cs with
  | [] => .ok []
  | '?' :: rest => (read (position + 1) (some '?') rest).map (.anyLetter :: ·)
  | '*' :: '*' :: '*' :: _ => .error (position + 2, .wildcards)
  | '*' :: '*' :: rest =>
    if before.all (· = '/') then
      match rest with
      | [] => .ok [.anyDepth]
      | '/' :: rest => (read (position + 3) (some '/') rest).map (.anyDepth :: ·)
      | _ => .error (position + 2, .recursiveWildcards)
    else .error (position - 1, .recursiveWildcards)
  | '*' :: rest => (read (position + 1) (some '*') rest).map (.anything :: ·)
  | '[' :: rest =>
    match _h : readSet? rest with
    | none => .error (position, .invalidRange)
    | some (set, after) =>
      (read (position + 1 + (rest.length - after.length)) (some ']') after).map (set :: ·)
  | c :: rest => (read (position + 1) (some c) rest).map (.letter c :: ·)
termination_by cs.length
decreasing_by
  · simp
  · simp; omega
  · simp
  · have := length_of_readSet? _h
    simp; omega
  · simp

def accepts : List Wildcard → List Char → Bool
  | [], cs => cs.isEmpty
  | .anything :: steps, cs | .anyDepth :: steps, cs =>
    (List.range (cs.length + 1)).any fun n => accepts steps (cs.drop n)
  | step :: steps, cs =>
    match cs with
    | [] => false
    | c :: rest =>
      (match step with
        | .letter d => c = d
        | .oneOf isMember ranges => isMember == ranges.any fun r => r.1 ≤ c && c ≤ r.2
        | _ => true)
      && accepts steps rest

def letter? : Wildcard → Option Char
  | .letter c => some c
  | _ => none

end Wildcard

namespace PathPart

def ofText (s : String) : Except (Nat × PatternFault) PathPart :=
  (Wildcard.read 0 none s.toList).map fun steps =>
    match steps, steps.mapM Wildcard.letter? with
    | [.anyDepth], _ => .anyDepth
    | _, some cs => .name (String.ofList cs)
    | steps, none => .wild steps

def accepts (p : PathPart) (name : String) : Bool :=
  match p with
  | .name s => s = name
  | .wild steps => Wildcard.accepts steps name.toList
  | .anyDepth => true

def collapse : List PathPart → List PathPart
  | .anyDepth :: .anyDepth :: rest => collapse (.anyDepth :: rest)
  | p :: rest => p :: collapse rest
  | [] => []

end PathPart

namespace PathPattern

def isPattern (s : String) : Bool := s.toList.any fun c => c = '*' || c = '?' || c = '['

def partTexts (s : String) : List String :=
  let texts := s.splitOn "/"
  if texts.getLast? = some "" then texts.dropLast else texts

def ofText (s : String) : Except Error PathPattern :=
  let parts : Except (Nat × PatternFault) (List PathPart) := do
    let _ ← Wildcard.read 0 none s.toList
    (partTexts s).mapM PathPart.ofText
  match parts with
  | .ok parts => .ok ⟨PathPart.collapse parts, s.endsWith "/"⟩
  | .error (position, fault) => .error (.pattern position fault)

end PathPattern

end ViewLayers
