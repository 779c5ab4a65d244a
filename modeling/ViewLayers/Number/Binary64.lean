/-!
# Binary floating-point numbers

A number is its 64 bits: a sign, an exponent field of eleven bits and a fraction field of
52 bits. Reading a decimal rounds its exact value once, to the nearest number, a tie going
to the even fraction; everything is exact arithmetic on natural numbers.
-/

namespace ViewLayers

def twoTo (n : Nat) : Nat := Nat.pow 2 n

def tenTo (n : Nat) : Nat := Nat.pow 10 n

structure Binary64 where
  bits : UInt64
  deriving DecidableEq, Repr, Inhabited

namespace Binary64

def magnitude (x : Binary64) : Nat := x.bits.toNat % twoTo 63

def isNegative (x : Binary64) : Bool := twoTo 63 ≤ x.bits.toNat

def infiniteMagnitude : Nat := 2047 * twoTo 52

def isNaN (x : Binary64) : Bool := infiniteMagnitude < x.magnitude

def isInfinite (x : Binary64) : Bool := x.magnitude = infiniteMagnitude

def isFinite (x : Binary64) : Bool := x.magnitude < infiniteMagnitude

def isZero (x : Binary64) : Bool := x.magnitude = 0

def ofMagnitude (negative : Bool) (magnitude : Nat) : Binary64 :=
  ⟨UInt64.ofNat (if negative then twoTo 63 + magnitude else magnitude)⟩

def nan : Binary64 := ofMagnitude false (infiniteMagnitude + twoTo 51)

def infinity (negative : Bool) : Binary64 := ofMagnitude negative infiniteMagnitude

def zero : Binary64 := ofMagnitude false 0

/-- One number for all spellings of not-a-number, and one for both zeros. -/
def canonical (x : Binary64) : Binary64 :=
  if x.isNaN then nan else if x.isZero then zero else x

/-- The fraction `m` and exponent `q` of a finite number `m * 2 ^ q`. -/
def parts (x : Binary64) : Nat × Int :=
  let field := x.magnitude / twoTo 52
  let fraction := x.magnitude % twoTo 52
  if field = 0 then (fraction, -1074) else (fraction + twoTo 52, Int.ofNat field - 1075)

def roundDiv (num den : Nat) : Nat :=
  let q := num / den
  let r := num % den
  if 2 * r < den then q else if den < 2 * r then q + 1 else q + q % 2

def scaleDown (num den : Nat) (q : Int) : Nat × Nat :=
  if q < 0 then (num * twoTo (-q).toNat, den) else (num, den * twoTo q.toNat)

/-- The exponent at which `num / den` has 53 bits, or the least one. -/
def fittingExponent (num den : Nat) : Int :=
  let guess := max ((num.log2 : Int) - den.log2 - 53) (-1074)
  let (n, d) := scaleDown num den guess
  if twoTo 53 ≤ n / d then guess + 1 else guess

/-- The magnitude nearest to the positive number `num / den`. A fraction that rounds up to
`2 ^ 53` carries into the exponent field, so one sum covers every case. -/
def nearestMagnitude (num den : Nat) : Nat :=
  let q := fittingExponent num den
  let (n, d) := scaleDown num den q
  min infiniteMagnitude ((q + 1074).toNat * twoTo 52 + roundDiv n d)

def ofRatio (negative : Bool) (num den : Nat) : Binary64 :=
  ofMagnitude negative (if num = 0 then 0 else nearestMagnitude num den)

/-- The number nearest to `digits * 10 ^ exponent`. Exponents far outside the range decide
the answer alone. -/
def ofDecimal (negative : Bool) (digits : Nat) (exponent : Int) : Binary64 :=
  if digits = 0 then ofMagnitude negative 0
  else if 400 < exponent then infinity negative
  else if exponent + digits.log2 + 1 < -400 then ofMagnitude negative 0
  else if exponent < 0 then ofRatio negative digits (tenTo (-exponent).toNat)
  else ofRatio negative (digits * tenTo exponent.toNat) 1

def ofNat (n : Nat) : Binary64 := ofRatio false n 1

def ratio (x : Binary64) : Nat × Nat :=
  let (m, q) := x.parts
  if q < 0 then (m, twoTo (-q).toNat) else (m * twoTo q.toNat, 1)

def mulFinite (x y : Binary64) : Binary64 :=
  let (a, b) := x.ratio
  let (c, d) := y.ratio
  ofRatio false (a * c) (b * d)

def divFinite (x y : Binary64) : Binary64 :=
  let (a, b) := x.ratio
  let (c, d) := y.ratio
  ofRatio false (a * d) (b * c)

end Binary64

end ViewLayers
