import ViewLayers.Number.Shortest

/-!
# The text of a number

Two layouts use the same digits: the text of a value, `1e16`, and the text in JSON,
`1e+16`. Both are positional while the exponent of the first digit is from -5 to 15 and
always show a fraction in that form.
-/

namespace ViewLayers

structure FloatLayout where
  leastPositional : Int
  greatestPositional : Int
  exponentPlus : String
  notANumber : String
  positiveInfinity : String
  negativeInfinity : String

def FloatLayout.value : FloatLayout := ⟨-5, 15, "", ".nan", ".inf", "-.inf"⟩

def FloatLayout.json : FloatLayout := ⟨-5, 15, "+", "null", "null", "null"⟩

namespace FloatLayout

def positional (digits : List Char) (point : Int) : List Char :=
  if point ≤ 0 then '0' :: '.' :: (List.replicate (-point).toNat '0' ++ digits)
  else if (digits.length : Int) ≤ point then
    digits ++ List.replicate (point.toNat - digits.length) '0' ++ ['.', '0']
  else digits.take point.toNat ++ '.' :: digits.drop point.toNat

def scientific (layout : FloatLayout) (digits : List Char) (exponent : Int) : List Char :=
  let fraction := match digits.drop 1 with
    | [] => []
    | rest => '.' :: rest
  let sign := if exponent < 0 then "-" else layout.exponentPlus
  digits.take 1 ++ fraction ++ 'e' :: sign.toList ++ (toString exponent.natAbs).toList

def finite (layout : FloatLayout) (x : Binary64) : List Char :=
  let d := x.shortest
  let digits := (toString d.digits).toList
  let first := if x.isZero then 0 else d.exponent + digits.length - 1
  let body :=
    if layout.leastPositional ≤ first ∧ first ≤ layout.greatestPositional then
      positional digits (first + 1)
    else scientific layout digits first
  if x.isNegative then '-' :: body else body

def text (layout : FloatLayout) (x : Binary64) : String :=
  if x.isNaN then layout.notANumber
  else if x.isInfinite then
    if x.isNegative then layout.negativeInfinity else layout.positiveInfinity
  else String.ofList (layout.finite x)

end FloatLayout

end ViewLayers
