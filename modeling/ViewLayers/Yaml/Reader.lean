import ViewLayers.Value.Key
import ViewLayers.Yaml.Node.OfTokens
import ViewLayers.Yaml.Scalar
import ViewLayers.Yaml.Token.Reader

/-!
# Reading YAML

A text is one document at most, and an empty text is null. Aliases stand for copies of their
nodes; how deep collections nest and how often aliases are followed is bounded.
-/

namespace ViewLayers.Yaml

def greatestDepth : Nat := 128

/-- How many aliases may be followed for each event of the document. -/
def aliasesPerEvent : Nat := 100

abbrev Builder := StateT Nat (Except Fault)

/-- The name of a tag of the document's own; other tags only direct how a scalar is read. -/
def ownTag? : Option (List Char) → Option String
  | some ['!'] => some "!"
  | some ('!' :: name) => some (String.ofList name)
  | _ => none

def coreTag (name : String) : List Char := ("tag:yaml.org,2002:" ++ name).toList

def typedScalar? (tag : List Char) (text : List Char) : Option (Except Fault Value) :=
  if tag = coreTag "bool" then
    some (match Meaning.bool? text with
      | some b => .ok (.bool b)
      | none => .error .scalar)
  else if tag = coreTag "int" then
    some (match Meaning.int? text with
      | some (.int n) => .ok (.int n)
      | _ => .error .scalar)
  else if tag = coreTag "float" then
    some (match Meaning.float? text with
      | some x => .ok (.float x)
      | none => .error .scalar)
  else if tag = coreTag "null" then
    some (if Meaning.isNullWord text then .ok .null else .error .scalar)
  else none

def plainOrText (plain : Bool) (text : List Char) : Except Fault Value :=
  if plain then (Meaning.ofPlain text).toValue text else .ok (.string (String.ofList text))

def scalarValue (tag : Option (List Char)) (plain : Bool) (text : List Char) :
    Except Fault Value :=
  match ownTag? tag, tag with
  | some _, _ | none, none => plainOrText plain text
  | none, some tag => (typedScalar? tag text).getD (.ok (.string (String.ofList text)))

def tagWith (tag : Option (List Char)) (v : Value) : Value :=
  match ownTag? tag with
  | some name => .tagged name v
  | none => v

def follow (d : Document) : Node → Builder Node
  | .alias number => do
    match ← get, d.node? number with
    | left + 1, some n => do set left; return n
    | _, _ => throw .repetition
  | n => return n

def buildEntries (build : Node → Builder Value) (done : Record) :
    List (Node × Node) → Builder Record
  | [] => return done
  | (k, v) :: rest => do
    let key ← build k
    if Entries.has done key then throw .duplicateKey
    let value ← build v
    buildEntries build (done ++ [(key, value)]) rest

def build (d : Document) : Nat → Node → Builder Value
  | 0, n => do
    match ← follow d n with
    | .scalar tag plain text => return tagWith tag (← scalarValue tag plain text)
    | _ => throw .depth
  | depth + 1, n => do
    match ← follow d n with
    | .scalar tag plain text => return tagWith tag (← scalarValue tag plain text)
    | .sequence tag items => return tagWith tag (.list (← items.mapM (build d depth)))
    | .mapping tag entries =>
      return tagWith tag (.record (← buildEntries (build d depth) [] entries))
    | .alias _ => throw .repetition

def Document.toValue (d : Document) : Except Fault Value :=
  (build d greatestDepth d.root).run' (aliasesPerEvent * d.root.eventCount)

def read (s : String) : Except Fault Value := do
  (← Document.ofTokens? (← Token.ofText? s.toList)).toValue

end ViewLayers.Yaml
