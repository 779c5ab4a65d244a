import ViewLayers.Json.Canonical
import ViewLayers.Json.Lexeme
import ViewLayers.Json.Numeral

/-!
# Reading JSON

The lexemes are taken in turn. The collections that are open stand on a stack, the innermost
first, and the phase says what may come next. As a value a document has the members of its
objects in the order of their names, the last of one name winning.
-/

namespace ViewLayers.Json

inductive Frame where
  | array (items : List Json)
  | object (members : List (String × Json)) (name : String)

inductive Phase where
  | value
  | firstItem
  | firstMember
  | member
  | colon
  | after
  | done (v : Json)

structure Reading where
  frames : List Frame
  phase : Phase

namespace Reading

def greatestDepth : Nat := 127

def place (frames : List Frame) (v : Json) : Reading :=
  match frames with
  | [] => ⟨[], .done v⟩
  | .array items :: rest => ⟨.array (v :: items) :: rest, .after⟩
  | .object members name :: rest => ⟨.object ((name, v) :: members) "" :: rest, .after⟩

def enter (frames : List Frame) (frame : Frame) (phase : Phase) : Option Reading :=
  if frames.length < greatestDepth then some ⟨frame :: frames, phase⟩ else none

def atom? (letters : List Char) : Option Json :=
  if letters = "null".toList then some .null
  else if letters = "true".toList then some (.bool true)
  else if letters = "false".toList then some (.bool false)
  else (Numeral.ofChars? letters).bind Numeral.toJson?

def readValue (frames : List Frame) (l : Lexeme) : Option Reading :=
  match l with
  | .openArray => enter frames (.array []) .firstItem
  | .openObject => enter frames (.object [] "") .firstMember
  | .text s => some (place frames (.string s))
  | .atom letters => (atom? letters).map (place frames)
  | _ => none

def readName (frames : List Frame) (l : Lexeme) : Option Reading :=
  match frames, l with
  | .object members _ :: rest, .text s => some ⟨.object members s :: rest, .colon⟩
  | _, _ => none

def close (frames : List Frame) (l : Lexeme) : Option Reading :=
  match frames, l with
  | .array items :: rest, .closeArray => some (place rest (.array items.reverse))
  | .object members _ :: rest, .closeObject => some (place rest (.object members.reverse))
  | _, _ => none

def step (r : Reading) (l : Lexeme) : Option Reading :=
  match r.phase, l with
  | .value, l => readValue r.frames l
  | .firstItem, .closeArray => close r.frames l
  | .firstItem, l => readValue r.frames l
  | .firstMember, .closeObject => close r.frames l
  | .firstMember, l | .member, l => readName r.frames l
  | .colon, .colon => some ⟨r.frames, .value⟩
  | .colon, _ => none
  | .after, .comma =>
    match r.frames with
    | .array _ :: _ => some ⟨r.frames, .value⟩
    | _ => some ⟨r.frames, .member⟩
  | .after, l => close r.frames l
  | .done _, _ => none

def finish (r : Reading) : Option Json :=
  match r.phase with
  | .done v => some v
  | _ => none

end Reading

def ofText? (s : String) : Option Json := do
  let lexemes ← Lexeme.ofText? s
  (← lexemes.foldlM Reading.step ⟨[], .value⟩).finish

def namedValues (members : List (String × Value)) : List (Value × Value) :=
  members.map fun m => (.string m.1, m.2)

mutual

def toValue : Json → Value
  | .null => .null
  | .bool b => .bool b
  | .int n => .int n
  | .float x => .float x
  | .string s => .string s
  | .array items => .list (itemsToValues items)
  | .object members => .record (namedValues (insertMembers [] members))

def itemsToValues : List Json → List Value
  | [] => []
  | v :: vs => toValue v :: itemsToValues vs

def insertMembers (done : List (String × Value)) :
    List (String × Json) → List (String × Value)
  | [] => done
  | (name, v) :: ms => insertMembers (insertMember name (toValue v) done) ms

end

end ViewLayers.Json
