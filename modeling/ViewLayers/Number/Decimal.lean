import ViewLayers.Number.Binary64

/-!
# Reading numbers

Decimal texts, `-1.5e-7`, and whole numbers in a base. A decimal has digits on at least one
side of its point, and its value is rounded once.
-/

namespace ViewLayers

def digitValue? (base : Nat) (c : Char) : Option Nat :=
  let value :=
    if '0' ≤ c ∧ c ≤ '9' then some (c.toNat - '0'.toNat)
    else if 'a' ≤ c ∧ c ≤ 'z' then some (c.toNat - 'a'.toNat + 10)
    else if 'A' ≤ c ∧ c ≤ 'Z' then some (c.toNat - 'A'.toNat + 10)
    else none
  value.filter (· < base)

def digitsFrom? (base done : Nat) : List Char → Option Nat
  | [] => some done
  | c :: rest => (digitValue? base c).bind fun d => digitsFrom? base (done * base + d) rest

def readDigits? (base : Nat) : List Char → Option Nat
  | [] => none
  | cs => digitsFrom? base 0 cs

def splitSign : List Char → Bool × List Char
  | '-' :: rest => (true, rest)
  | '+' :: rest => (false, rest)
  | cs => (false, cs)

def isExponentMark (c : Char) : Bool := c = 'e' || c = 'E'

def readExponent? (cs : List Char) : Option Int :=
  let (negative, digits) := splitSign cs
  (readDigits? 10 digits).map fun n => if negative then -Int.ofNat n else Int.ofNat n

def readDecimal? (cs : List Char) : Option (Nat × Int) := do
  let whole := cs.takeWhile Char.isDigit
  let afterWhole := cs.dropWhile Char.isDigit
  let (fraction, rest) := match afterWhole with
    | '.' :: more => (more.takeWhile Char.isDigit, more.dropWhile Char.isDigit)
    | other => ([], other)
  let digits ← readDigits? 10 (whole ++ fraction)
  match rest with
  | [] => some (digits, -Int.ofNat fraction.length)
  | c :: exponent =>
    if isExponentMark c then
      (readExponent? exponent).map fun e => (digits, e - fraction.length)
    else none

def Binary64.ofText? (cs : List Char) : Option Binary64 :=
  let (negative, unsigned) := splitSign cs
  (readDecimal? unsigned).map fun (digits, exponent) =>
    Binary64.ofDecimal negative digits exponent

end ViewLayers
