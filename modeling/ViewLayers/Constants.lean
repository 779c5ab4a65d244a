import ViewLayers.Value.Text
import ViewLayers.Text.Placeholder
import ViewLayers.Notice

/-!
# Constants

A table of constants maps lower-case names to texts. It is read from a document by joining
the keys on the way to each scalar. Constants replace the placeholders in every text of a
value, but not in keys.
-/

namespace ViewLayers

structure Constants where
  values : Entries String String
  deriving DecidableEq, Inhabited

namespace Constants

def empty : Constants := ⟨[]⟩

def define (t : Constants) (name value : String) : Constants :=
  ⟨Entries.put t.values (Text.lowercase name) value⟩

def lookup (t : Constants) (name : String) : Option String := Entries.get? t.values name

def ofPairs (pairs : List (String × String)) : Constants :=
  pairs.foldl (fun t e => t.define e.1 e.2) empty

mutual

/-- The scalars and nulls under a name, each with its joined name, in document order. What
is neither a scalar, null nor a record without a tag is marked by `none`. -/
def leaves (name : String) : Value → List (String × Option String)
  | .record entries => leavesUnder (name ++ "_") entries
  | .null => [(name, some "")]
  | .bool b => [(name, some (Value.boolText b))]
  | .int n => [(name, some (toString n))]
  | .float x => [(name, some (Value.floatText x))]
  | .string s => [(name, some s)]
  | .list _ => [(name, none)]
  | .tagged _ v =>
    [(name, if v.isNull then some "" else v.scalarText?)]

def leavesUnder (start : String) : List (Value × Value) → List (String × Option String)
  | [] => []
  | (k, v) :: rest => leaves (start ++ k.keyText) v ++ leavesUnder start rest

end

def ofEntries (entries : Record) : Constants :=
  ofPairs ((leavesUnder "" entries).filterMap fun e => e.2.map fun text => (e.1, text))

def ofValue? (v : Value) : Option Constants := v.entries?.map ofEntries

def valueNotices (v : Value) : List Notice :=
  (leavesUnder "" (v.entries?.getD [])).filterMap fun e =>
    if e.2.isNone then some (.constantSkipped e.1) else none

end Constants

def noConstants (_ : String) : Option String := none

mutual

def Value.substitute (lookup : String → Option String) : Value → Value
  | .string s => .string (Text.substitute lookup s)
  | .list items => .list (Value.substituteItems lookup items)
  | .record entries => .record (Record.substitute lookup entries)
  | .tagged t v => .tagged t (v.substitute lookup)
  | .null => .null
  | .bool b => .bool b
  | .int n => .int n
  | .float x => .float x

def Value.substituteItems (lookup : String → Option String) : List Value → List Value
  | [] => []
  | v :: vs => v.substitute lookup :: Value.substituteItems lookup vs

def Record.substitute (lookup : String → Option String) :
    List (Value × Value) → List (Value × Value)
  | [] => []
  | (k, v) :: rest => (k, v.substitute lookup) :: Record.substitute lookup rest

end

end ViewLayers
