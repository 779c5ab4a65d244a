import ViewLayers.Calendar
import ViewLayers.Number.Decimal
import ViewLayers.Text.CharRange

/-!
# Reading moments

A moment is given as `2024-01-02 03:04:05`, or with a `T` for the blank. Blanks may stand
before every number. A year has four digits at most unless it carries a sign, every other
number two at most.
-/

namespace ViewLayers

namespace Moment

def skipBlanks (cs : List Char) : List Char := cs.dropWhile Text.isBlank

def readNumber? (width : Nat) (cs : List Char) : Option (Nat × List Char) :=
  let digits := (cs.take width).takeWhile Char.isDigit
  (readDigits? 10 digits).map fun n => (n, cs.drop digits.length)

def readYear? (cs : List Char) : Option (Int × List Char) :=
  match cs with
  | '-' :: rest => (readNumber? rest.length rest).map fun (n, after) => (-Int.ofNat n, after)
  | '+' :: rest => (readNumber? rest.length rest).map fun (n, after) => (Int.ofNat n, after)
  | rest => (readNumber? 4 rest).map fun (n, after) => (Int.ofNat n, after)

def readField? (mark : Char) (cs : List Char) : Option (Nat × List Char) :=
  match cs with
  | c :: rest => if c = mark then readNumber? 2 (skipBlanks rest) else none
  | [] => none

def readHour? (cs : List Char) : Option (Nat × List Char) :=
  match cs with
  | 'T' :: rest => readNumber? 2 (skipBlanks rest)
  | rest => readNumber? 2 (skipBlanks rest)

def readStart? (cs : List Char) : Option (Moment × List Char) := do
  let (year, cs) ← readYear? (skipBlanks cs)
  let (month, cs) ← readField? '-' cs
  let (day, cs) ← readField? '-' cs
  let (hour, cs) ← readHour? cs
  let (minute, cs) ← readField? ':' cs
  let (second, cs) ← readField? ':' cs
  let m : Moment := ⟨year, month, day, hour, minute, second, 0⟩
  if m.isValid then some (m, cs) else none

def ofText? (s : String) : Option Moment :=
  match readStart? s.toList with
  | some (m, []) => some m
  | _ => none

def ofPreciseText? (s : String) : Option Moment := do
  let (m, rest) ← readStart? s.toList
  match rest with
  | [] => some m
  | '.' :: digits =>
    let nine := (digits ++ List.replicate 9 '0').take 9
    (readDigits? 10 nine).map fun n => { m with nanosecond := n }
  | _ => none

end Moment

end ViewLayers
