import ViewLayers.Calendar
import ViewLayers.Number.Decimal
import ViewLayers.Toml.Basic

/-!
# TOML scalars

A scalar without quotes is one word, and its letters say what it is. Digits may be grouped by
single underscores. A whole number has 64 bits and a sign.
-/

namespace ViewLayers.Toml

def ungrouped? (isDigit : Char → Bool) : List Char → Option (List Char)
  | [] => none
  | [c] => if isDigit c then some [c] else none
  | c :: '_' :: rest => if isDigit c then (ungrouped? isDigit rest).map (c :: ·) else none
  | c :: rest => if isDigit c then (ungrouped? isDigit rest).map (c :: ·) else none

def wholeDigits? (cs : List Char) : Option (List Char) :=
  if cs.head? = some '0' && 1 < cs.length then none else ungrouped? Char.isDigit cs

def isDigitOf (base : Nat) (c : Char) : Bool := (digitValue? base c).isSome

def based? (cs : List Char) : Option (Option Nat) :=
  let read (base : Nat) (digits : List Char) :=
    (ungrouped? (isDigitOf base) digits).bind (readDigits? base)
  match cs with
  | '0' :: 'x' :: digits => some (read 16 digits)
  | '0' :: 'o' :: digits => some (read 8 digits)
  | '0' :: 'b' :: digits => some (read 2 digits)
  | _ => none

def int? (cs : List Char) : Option Int :=
  match based? cs with
  | some n => (n.filter (· < twoTo 63)).map Int.ofNat
  | none =>
    let (negative, unsigned) := splitSign cs
    ((wholeDigits? unsigned).bind (readDigits? 10)).bind fun n =>
      if negative then if n ≤ twoTo 63 then some (-Int.ofNat n) else none
      else if n < twoTo 63 then some (Int.ofNat n)
      else none

def isGroupChar (c : Char) : Bool := c.isDigit || c = '_'

def fractionDigits? (cs : List Char) : Option (List Char × List Char) :=
  match cs with
  | '.' :: rest =>
    (ungrouped? Char.isDigit (rest.takeWhile isGroupChar)).map fun digits =>
      ('.' :: digits, rest.dropWhile isGroupChar)
  | _ => some ([], cs)

def exponentDigits? (cs : List Char) : Option (List Char) :=
  match cs with
  | [] => some []
  | c :: rest =>
    if !isExponentMark c then none
    else
      let sign := if rest.head? = some '-' then ['-'] else []
      let digits := if rest.head?.any (fun s => s = '-' || s = '+') then rest.drop 1 else rest
      (ungrouped? Char.isDigit digits).map fun digits => 'e' :: (sign ++ digits)

/-- A decimal with a fraction or an exponent; it must not be beyond the range upwards. -/
def decimal? (cs : List Char) : Option Binary64 := do
  let (negative, unsigned) := splitSign cs
  let whole ← wholeDigits? (unsigned.takeWhile isGroupChar)
  let (fraction, rest) ← fractionDigits? (unsigned.dropWhile isGroupChar)
  let exponent ← exponentDigits? rest
  if fraction.isEmpty && exponent.isEmpty then none
  let x ← Binary64.ofText? (whole ++ fraction ++ exponent)
  if negative then return Binary64.ofMagnitude true x.magnitude
  if x.isInfinite then none else return x

def special? (cs : List Char) : Option Binary64 :=
  let (negative, unsigned) := splitSign cs
  if unsigned = "inf".toList then some (Binary64.infinity negative)
  else if unsigned = "nan".toList then some Binary64.nan
  else none

def readTwo? (least greatest : Nat) (cs : List Char) : Option (Nat × List Char) :=
  match cs with
  | a :: b :: rest =>
    ((readDigits? 10 [a, b]).filter fun n => least ≤ n && n ≤ greatest).map fun n => (n, rest)
  | _ => none

def readMark? (mark : Char) (cs : List Char) : Option (List Char) :=
  match cs with
  | c :: rest => if c = mark then some rest else none
  | [] => none

def afterDate? (cs : List Char) : Option (List Char) := do
  let year ← if cs.length < 4 then none else readDigits? 10 (cs.take 4)
  let (month, cs) ← readTwo? 1 12 (← readMark? '-' (cs.drop 4))
  let (day, cs) ← readTwo? 1 31 (← readMark? '-' cs)
  let m : Moment := ⟨year, month, day, 0, 0, 0, 0⟩
  if m.isValid then some cs else none

def afterClock? (cs : List Char) : Option (List Char) := do
  let (_, cs) ← readTwo? 0 23 cs
  let (_, cs) ← readTwo? 0 59 (← readMark? ':' cs)
  let (_, cs) ← readTwo? 0 60 (← readMark? ':' cs)
  return cs

def readFraction? (cs : List Char) : Option (List Char × List Char) :=
  match cs with
  | '.' :: rest =>
    let digits := rest.takeWhile Char.isDigit
    let kept := ((digits.take 9).reverse.dropWhile (· = '0')).reverse
    if digits.isEmpty then none
    else some (if kept.isEmpty then [] else '.' :: kept, rest.dropWhile Char.isDigit)
  | _ => some ([], cs)

def readTime? (cs : List Char) : Option (List Char × List Char) := do
  let rest ← afterClock? cs
  let (fraction, rest) ← readFraction? rest
  return (cs.take 8 ++ fraction, rest)

def offset? (cs : List Char) : Option (List Char) :=
  match cs with
  | [] => some []
  | ['Z'] | ['z'] => some ['Z']
  | sign :: rest => do
    if sign ≠ '+' && sign ≠ '-' then none
    let (hours, after) ← readTwo? 0 23 rest
    let (minutes, after) ← readTwo? 0 59 (← readMark? ':' after)
    if !after.isEmpty then none
    return (if hours = 0 && minutes = 0 then '+' else sign) :: rest

def moment? (cs : List Char) : Option String :=
  match afterDate? cs with
  | some [] => some (String.ofList cs)
  | some (mark :: rest) => do
    if mark ≠ 'T' && mark ≠ 't' && mark ≠ ' ' then none
    let (time, rest) ← readTime? rest
    return String.ofList (cs.take 10 ++ 'T' :: (time ++ (← offset? rest)))
  | none => do
    let (time, rest) ← readTime? cs
    if rest.isEmpty then return String.ofList time
    none

def ofWord? (cs : List Char) : Option Toml :=
  if cs = "true".toList then some (.bool true)
  else if cs = "false".toList then some (.bool false)
  else
    ((moment? cs).map Toml.moment).or <| ((special? cs).map Toml.float).or <|
      ((int? cs).map Toml.int).or ((decimal? cs).map Toml.float)

end ViewLayers.Toml
