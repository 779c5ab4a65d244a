import ViewLayers.Number.Decimal
import ViewLayers.Value.Basic
import ViewLayers.Yaml.Fault

/-!
# The meaning of plain scalars

A scalar without quotes may be null, a truth value or a number. Whole numbers have 64 bits;
those that need up to 128 are told apart, and larger ones read as floating-point numbers. A
text of digits with a leading zero is no number.
-/

namespace ViewLayers.Yaml

inductive Meaning where
  | null
  | bool (b : Bool)
  | int (n : Int)
  /-- A whole number that needs more than 64 bits. -/
  | wide
  | float (x : Binary64)
  | text
  deriving DecidableEq

namespace Meaning

def isNullWord (cs : List Char) : Bool :=
  ["null", "Null", "NULL", "~"].any fun w => w.toList = cs

def bool? (cs : List Char) : Option Bool :=
  if ["true", "True", "TRUE"].any fun w => w.toList = cs then some true
  else if ["false", "False", "FALSE"].any fun w => w.toList = cs then some false
  else none

def isSign (c : Char) : Bool := c = '+' || c = '-'

def startsSigned (cs : List Char) : Bool := cs.head?.any isSign

def isPaddedDigits (cs : List Char) : Bool :=
  let digits := if startsSigned cs then cs.drop 1 else cs
  1 < digits.length && digits.head? = some '0' && digits.all Char.isDigit

def base? : List Char → Option (Nat × List Char)
  | '0' :: 'x' :: rest => some (16, rest)
  | '0' :: 'o' :: rest => some (8, rest)
  | '0' :: 'b' :: rest => some (2, rest)
  | _ => none

def magnitude? (limit : Nat) (padded : Bool) (cs : List Char) : Option Nat :=
  let based := (base? cs).bind fun (base, digits) => readDigits? base digits
  let plain := if padded then none else readDigits? 10 cs
  (based.filter (· ≤ limit)).or (plain.filter (· ≤ limit))

def unsigned? (limit : Nat) (cs : List Char) : Option Nat :=
  magnitude? limit (isPaddedDigits cs) (if cs.head? = some '+' then cs.drop 1 else cs)

def negative? (limit : Nat) (cs : List Char) : Option Nat :=
  if cs.head? = some '-' then magnitude? limit (isPaddedDigits cs) (cs.drop 1) else none

def int? (cs : List Char) : Option Meaning :=
  match unsigned? (twoTo 64 - 1) cs, negative? (twoTo 63) cs with
  | some n, _ => some (.int n)
  | none, some n => some (.int (-Int.ofNat n))
  | none, none =>
    if (unsigned? (twoTo 128 - 1) cs).isSome || (negative? (twoTo 127) cs).isSome then some .wide
    else none

def float? (cs : List Char) : Option Binary64 :=
  let positive := if cs.head? = some '+' then cs.drop 1 else cs
  if cs.head? = some '+' && startsSigned positive then none
  else if [".inf", ".Inf", ".INF"].any fun w => w.toList = positive then
    some (Binary64.infinity false)
  else if ["-.inf", "-.Inf", "-.INF"].any fun w => w.toList = cs then
    some (Binary64.infinity true)
  else if [".nan", ".NaN", ".NAN"].any fun w => w.toList = cs then some Binary64.nan
  else (Binary64.ofText? positive).filter Binary64.isFinite

def ofPlain (cs : List Char) : Meaning :=
  if cs.isEmpty || isNullWord cs then .null
  else
    match bool? cs, int? cs with
    | some b, _ => .bool b
    | none, some n => n
    | none, none =>
      if isPaddedDigits cs then .text
      else
        match float? cs with
        | some x => .float x
        | none => .text

def toValue (m : Meaning) (cs : List Char) : Except Fault Value :=
  match m with
  | .null => .ok .null
  | .bool b => .ok (.bool b)
  | .int n => .ok (.int n)
  | .wide => .error .scalar
  | .float x => .ok (.float x)
  | .text => .ok (.string (String.ofList cs))

end Meaning

end ViewLayers.Yaml
