import ViewLayers.Json.Basic
import ViewLayers.Number.Decimal

/-!
# Reading JSON numbers

A number is whole if it has neither a point nor an exponent and fits 64 bits. Any other is a
product: digits are taken into a whole number as long as it fits 64 bits, and that number is
multiplied or divided by a power of ten. Both factors and the result are rounded, so the last
place may differ from the nearest number.
-/

namespace ViewLayers

structure Numeral where
  negative : Bool
  whole : List Char
  fraction : Option (List Char)
  exponent : Option Int

namespace Numeral

def isWhole (digits : List Char) : Bool :=
  !digits.isEmpty && (digits.head? ≠ some '0' || digits.length = 1)

def readFraction? (cs : List Char) : Option (Option (List Char) × List Char) :=
  match cs with
  | '.' :: rest =>
    let digits := rest.takeWhile Char.isDigit
    if digits.isEmpty then none else some (some digits, rest.dropWhile Char.isDigit)
  | _ => some (none, cs)

def readPower? (cs : List Char) : Option (Option Int) :=
  match cs with
  | [] => some none
  | c :: rest => if isExponentMark c then (readExponent? rest).map some else none

def ofChars? (cs : List Char) : Option Numeral := do
  let (negative, unsigned) := match cs with
    | '-' :: rest => (true, rest)
    | _ => (false, cs)
  let whole := unsigned.takeWhile Char.isDigit
  if !isWhole whole then none
  let (fraction, rest) ← readFraction? (unsigned.dropWhile Char.isDigit)
  let exponent ← readPower? rest
  return ⟨negative, whole, fraction, exponent⟩

/-- Takes digits into a number below `2 ^ 64` and returns those that no longer fit. -/
def fill (significand : Nat) : List Char → Nat × List Char
  | [] => (significand, [])
  | c :: rest =>
    let next := significand * 10 + (digitValue? 10 c).getD 0
    if next < twoTo 64 then fill next rest else (significand, c :: rest)

def parts (n : Numeral) : Nat × Int :=
  let (significand, left) := fill 0 n.whole
  let digits := n.fraction.getD []
  let (significand, dropped) := fill significand digits
  (significand,
    (n.exponent.getD 0) + Int.ofNat left.length + Int.ofNat dropped.length
      - Int.ofNat digits.length)

def power (exponent : Nat) : Binary64 := Binary64.ofDecimal false 1 exponent

def scaled? (significand : Nat) (exponent : Int) : Option Binary64 :=
  let x := Binary64.ofNat significand
  if significand = 0 then some Binary64.zero
  else if 308 < exponent then none
  else if 0 ≤ exponent then (some (x.mulFinite (power exponent.toNat))).filter Binary64.isFinite
  else if -308 ≤ exponent then some (x.divFinite (power (-exponent).toNat))
  else if -616 ≤ exponent then
    some ((x.divFinite (power 308)).divFinite (power (-exponent - 308).toNat))
  else some Binary64.zero

def signed (negative : Bool) (x : Binary64) : Binary64 :=
  Binary64.ofMagnitude negative x.magnitude

def toJson? (n : Numeral) : Option Json :=
  let (significand, exponent) := n.parts
  let isPlain := n.fraction.isNone && n.exponent.isNone && exponent = 0
  if isPlain && !n.negative then some (.int significand)
  else if isPlain && 0 < significand && significand ≤ twoTo 63 then
    some (.int (-Int.ofNat significand))
  else (scaled? significand exponent).map fun x => .float (signed n.negative x)

end Numeral

end ViewLayers
