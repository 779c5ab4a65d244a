import ViewLayers.Error
import ViewLayers.Value.Text
import ViewLayers.Yaml.Spelling

/-!
# Written documents

Lists and records are written with one entry to a line, each level two columns further in than
the one above; a list under a key stands at the key's own column. Empty collections and
scalars stay on the line of their indicator. A long or broken key gets an indicator of its own.
-/

namespace ViewLayers.Yaml

def pad (column : Nat) : String := String.ofList (List.replicate column ' ')

def endLine (text : String) : String :=
  if text.toList.getLast?.any isBreak then text else text ++ "\n"

def markedTag (name : String) : String := if name.startsWith "!" then name else "!" ++ name

def isTagMark (c : Char) : Bool := isNameChar c || ";/?:@&=+$,.~*'()[]".toList.contains c

def tagByte (b : UInt8) : List Char := '%' :: Spelling.upperHex 2 b.toNat

def tagChar (c : Char) : List Char :=
  if isTagMark c then [c] else (String.singleton c).toUTF8.toList.flatMap tagByte

def tagText (name : String) : String :=
  if name = "!" then "!<!>"
  else "!" ++ String.ofList (((markedTag name).toList.drop 1).flatMap tagChar)

def leaf (column : Nat) : Value → String
  | .string s => written column s
  | .list _ => "[]"
  | .record _ => "\x7b\x7d"
  | .null => "null"
  | .bool b => Value.boolText b
  | .int n => toString n
  | .float x => Value.floatText x
  | .tagged _ _ => ""

def keySize? : Value → Option Nat
  | .list items => if items.isEmpty then some 0 else none
  | .record entries => if entries.isEmpty then some 0 else none
  | .tagged tag v => (keySize? v).map (· + (markedTag tag).utf8ByteSize)
  | .string s => if s.toList.any isBreak then none else some s.utf8ByteSize
  | v => some (leaf 0 v).utf8ByteSize

def isShortKey (k : Value) : Bool := (keySize? k).any (· ≤ 128)

mutual

/-- A value on the line of an indicator in `column`. A tagged list starts in `listColumn`. -/
def beside (column listColumn : Nat) : Value → String
  | .list items => if items.isEmpty then "[]" else itemLines (column + 2) items
  | .record entries => if entries.isEmpty then "\x7b\x7d" else entryLines (column + 2) entries
  | .tagged tag v => tagText tag ++ under column listColumn v
  | v => leaf (column + 2) v

def under (column listColumn : Nat) : Value → String
  | .list items =>
    if items.isEmpty then " []" else "\n" ++ pad listColumn ++ itemLines listColumn items
  | .record entries =>
    if entries.isEmpty then " \x7b\x7d"
    else "\n" ++ pad (column + 2) ++ entryLines (column + 2) entries
  | .tagged tag v => " " ++ tagText tag ++ under column listColumn v
  | v => " " ++ leaf (column + 2) v

def itemLines (column : Nat) : List Value → String
  | [] => ""
  | v :: vs =>
    let line := "- " ++ beside column (column + 2) v
    if vs.isEmpty then line else endLine line ++ pad column ++ itemLines column vs

def entryLines (column : Nat) : List (Value × Value) → String
  | [] => ""
  | (k, v) :: es =>
    let line :=
      if isShortKey k then beside column column k ++ ":" ++ under column column v
      else
        endLine ("? " ++ beside column column k) ++ pad column ++ ": "
          ++ beside column column v
    if es.isEmpty then line else endLine line ++ pad column ++ entryLines column es

end

def opensUnbracketed : Value → Bool
  | .tagged _ _ => true
  | .record entries => entries.length = 1
  | _ => false

mutual

/-- Why a value cannot be written: a tag directly on a tag, or an untagged record of one entry
whose key is tagged or such a record. -/
def fault? : Value → Option Error
  | .list items => itemsFault? items
  | .record entries =>
    (entriesFault? entries).or
      (match entries with
        | [(k, _)] => if opensUnbracketed k then some .loneKey else none
        | _ => none)
  | .tagged _ (.tagged _ _) => some .nestedTag
  | .tagged _ (.record entries) => entriesFault? entries
  | .tagged _ v => fault? v
  | _ => none

def itemsFault? : List Value → Option Error
  | [] => none
  | v :: vs => (fault? v).or (itemsFault? vs)

def entriesFault? : List (Value × Value) → Option Error
  | [] => none
  | (k, v) :: es => ((fault? k).or (fault? v)).or (entriesFault? es)

end

def write (v : Value) : Except Error String :=
  match fault? v with
  | some e => .error e
  | none =>
    .ok (endLine
      (match v with
        | .record [] => "\x7b\x7d"
        | .record entries => entryLines 0 entries
        | .list [] => "[]"
        | .list items => itemLines 0 items
        | .tagged tag u => tagText tag ++ under 0 0 u
        | u => leaf 2 u))

end ViewLayers.Yaml
