import ViewLayers.Value.Key
import ViewLayers.Number.Layout
import ViewLayers.Text.Quoted

/-!
# The text of a value

Texts, numbers and truth values name themselves, also under tags. A key of any other kind is
named by its detailed form, which shows the kind of every value in it.
-/

namespace ViewLayers

namespace Value

def boolText (b : Bool) : String := if b then "true" else "false"

def floatText (x : Binary64) : String := FloatLayout.value.text x

def scalarText? : Value → Option String
  | .string s => some s
  | .int n => some (toString n)
  | .float x => some (floatText x)
  | .bool b => some (boolText b)
  | .tagged _ v => scalarText? v
  | .null | .list _ | .record _ => none

def scalarText (v : Value) : String := v.scalarText?.getD ""

mutual

def detail : Value → String
  | .null => "Null"
  | .bool b => "Bool(" ++ boolText b ++ ")"
  | .int n => "Number(" ++ toString n ++ ")"
  | .float x => "Number(" ++ floatText x ++ ")"
  | .string s => "String(" ++ Text.quoted s ++ ")"
  | .list items => "Sequence [" ++ detailItems items ++ "]"
  | .record entries => "Mapping \x7b" ++ detailEntries entries ++ "\x7d"
  | .tagged t v => "TaggedValue \x7b tag: !" ++ t ++ ", value: " ++ detail v ++ " \x7d"

def detailItems : List Value → String
  | [] => ""
  | [v] => detail v
  | v :: vs => detail v ++ ", " ++ detailItems vs

def detailEntries : List (Value × Value) → String
  | [] => ""
  | [(k, v)] => detailKey k ++ ": " ++ detail v
  | (k, v) :: es => detailKey k ++ ": " ++ detail v ++ ", " ++ detailEntries es

def detailKey : Value → String
  | .bool b => boolText b
  | .int n => toString n
  | .float x => floatText x
  | .string s => Text.quoted s
  | .null => "Null"
  | .list items => "Sequence [" ++ detailItems items ++ "]"
  | .record entries => "Mapping \x7b" ++ detailEntries entries ++ "\x7d"
  | .tagged t v => "TaggedValue \x7b tag: !" ++ t ++ ", value: " ++ detail v ++ " \x7d"

end

def keyText (k : Value) : String := k.scalarText?.getD k.detail

def falseWords : List String := ["false", "off", "no", "n"]

/-- Whether a setting is on. Null, false, zero, an empty text or collection, the text `0` and
the false words are off; everything else is on. -/
def isTruthy : Value → Bool
  | .null => false
  | .bool b => b
  | .int n => n != 0
  | .float x => !x.isZero
  | .string s => !(s.isEmpty || s = "0" || falseWords.contains (s.map Char.toLower))
  | .list items => !items.isEmpty
  | .record entries => !entries.isEmpty
  | .tagged _ v => isTruthy v

end Value

end ViewLayers
