import ViewLayers.Constants
import ViewLayers.FileTree
import ViewLayers.Json.Reader
import ViewLayers.Toml.Reader
import ViewLayers.Yaml.Reader

/-!
# Files of constants

The end of a file's name tells its format: JSON, TOML or, for any other end, YAML. The
document must be a record.
-/

namespace ViewLayers

inductive TableFormat where
  | yaml
  | json
  | toml
  deriving DecidableEq, Repr

namespace TableFormat

/-- What stands after the last dot of a name that does not begin with that dot. -/
def extension (name : String) : String :=
  let (ending, before) := name.toList.reverse.span (· ≠ '.')
  match before with
  | '.' :: start => if start.isEmpty then "" else String.ofList ending.reverse
  | _ => ""

def ofPath (path : String) : TableFormat :=
  let name := (FileTree.names path).getLast?.getD ""
  let ending := if name = ".." then "" else Text.lowercase (extension name)
  if ending = "json" then .json else if ending = "toml" then .toml else .yaml

def read (f : TableFormat) (text : String) : Except String Value :=
  match f with
  | .json =>
    match Json.ofText? text with
    | some j => .ok j.toValue
    | none => .error "invalid JSON"
  | .toml =>
    match Toml.read? text with
    | some v => .ok v
    | none => .error "invalid TOML"
  | .yaml =>
    match Yaml.read text with
    | .ok v => .ok v
    | .error f => .error f.message

end TableFormat

def Constants.ofFile (files : FileTree) (path : String) :
    Except Error Constants × List Notice :=
  match files.readText path with
  | .error f => (.error (.constantsFile path f.message), [])
  | .ok text =>
    match (TableFormat.ofPath path).read text with
    | .error reason => (.error (.constantsFile path reason), [])
    | .ok v =>
      match ofValue? v with
      | none => (.error (.constantsFile path "expected a table of constant names"), [])
      | some table => (.ok table, valueNotices v)

end ViewLayers
