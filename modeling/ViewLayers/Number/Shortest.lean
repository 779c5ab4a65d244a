import ViewLayers.Number.Binary64

/-!
# The fewest digits that read back

A finite number other than zero stands for an interval of reals, those that round to it; the
ends belong to it when the fraction is even. The digits of the number are the point of the
coarsest decimal grid that lies in the interval, and of two such points the nearer one.
All comparisons are exact.
-/

namespace ViewLayers

structure DecimalDigits where
  digits : Nat
  exponent : Int
  deriving DecidableEq, Repr

namespace Binary64

/-- Reals that round to one number, in units of a quarter of its last bit: the number, its
lower end and its upper end, as multiples of `num / den`. -/
structure Reach where
  middle : Nat
  below : Nat
  above : Nat
  closed : Bool
  num : Nat
  den : Nat

def reach (x : Binary64) : Reach :=
  let (m, q) := x.parts
  let narrow := m = twoTo 52 ∧ -1074 < q
  let scale := q - 2
  { middle := 4 * m
    below := 4 * m - (if narrow then 1 else 2)
    above := 4 * m + 2
    closed := m % 2 = 0
    num := if scale < 0 then 1 else twoTo scale.toNat
    den := if scale < 0 then twoTo (-scale).toNat else 1 }

def Reach.holds (r : Reach) (up down digits : Nat) : Bool :=
  let here := digits * up * r.den
  let low := r.below * r.num * down
  let high := r.above * r.num * down
  if r.closed then low ≤ here && here ≤ high else low < here && here < high

/-- The point of the grid with step `10 ^ k` that lies in the interval, the nearer one of
two, the even one of two equally near. -/
def Reach.pointAt? (r : Reach) (k : Int) : Option Nat :=
  let up := if k < 0 then 1 else tenTo k.toNat
  let down := if k < 0 then tenTo (-k).toNat else 1
  let target := r.middle * r.num * down
  let unit := up * r.den
  let lower := target / unit
  let rest := target % unit
  match r.holds up down lower, r.holds up down (lower + 1) with
  | true, true =>
    if 2 * rest < unit then some lower
    else if unit < 2 * rest then some (lower + 1)
    else some (lower + lower % 2)
  | true, false => some lower
  | false, true => some (lower + 1)
  | false, false => none

def Reach.coarsest (r : Reach) : Nat → Int → DecimalDigits
  | 0, k => ⟨0, k⟩
  | fuel + 1, k =>
    match r.pointAt? k with
    | some d => if d = 0 then Reach.coarsest r fuel (k - 1) else ⟨d, k⟩
    | none => Reach.coarsest r fuel (k - 1)

/-- An exponent at which `num / den` is below `10 ^ (k + 1)`; at most two above the least. -/
def decimalExponent (num den : Nat) : Int :=
  let e := (num.log2 : Int) - den.log2
  (e * 30103).fdiv 100000 + 1

def DecimalDigits.strip : Nat → DecimalDigits → DecimalDigits
  | 0, d => d
  | fuel + 1, d =>
    if d.digits % 10 = 0 ∧ d.digits ≠ 0 then
      DecimalDigits.strip fuel ⟨d.digits / 10, d.exponent + 1⟩
    else d

/-- The shortest digits of a finite number. Seventeen digits always suffice, and the search
starts at most two grids too coarse. -/
def shortest (x : Binary64) : DecimalDigits :=
  if x.isZero then ⟨0, 0⟩
  else
    let (num, den) := x.ratio
    DecimalDigits.strip 20 (x.reach.coarsest 24 (decimalExponent num den))

end Binary64

end ViewLayers
