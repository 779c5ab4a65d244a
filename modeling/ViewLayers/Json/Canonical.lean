import ViewLayers.Json.Basic
import ViewLayers.Value.Text

/-!
# Values in canonical JSON

In a script an option record is written in one form only: its names are the texts of its keys
in increasing order, each with the value of the last key of that name, and tags are dropped.
-/

namespace ViewLayers

namespace Json

def insertMember {β : Type} (name : String) (v : β) : List (String × β) → List (String × β)
  | [] => [(name, v)]
  | (n, w) :: ms =>
    if name = n then (name, v) :: ms
    else if name < n then (name, v) :: (n, w) :: ms
    else (n, w) :: insertMember name v ms

def ofFloat (x : Binary64) : Json := if x.isFinite then .float x else .null

mutual

def ofValue : Value → Json
  | .null => .null
  | .bool b => .bool b
  | .int n => .int n
  | .float x => ofFloat x
  | .string s => .string s
  | .list items => .array (ofItems items)
  | .record entries => .object (insertEntries [] entries)
  | .tagged _ v => ofValue v

def ofItems : List Value → List Json
  | [] => []
  | v :: vs => ofValue v :: ofItems vs

def insertEntries (done : List (String × Json)) : List (Value × Value) → List (String × Json)
  | [] => done
  | (k, v) :: es => insertEntries (insertMember k.keyText (ofValue v) done) es

end

def ofRecord (r : Record) : Json := .object (insertEntries [] r)

end Json

end ViewLayers
