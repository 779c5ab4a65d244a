import ViewLayers.Value.Text
import ViewLayers.Error
import ViewLayers.Notice

/-!
# Trees of views

A tree names views and gives each its settings, in order. Two names are reserved: `default`
is the layer below `all`, and `all` is the layer below every view.
-/

namespace ViewLayers

def defaultLayer : String := "default"

def commonLayer : String := "all"

def isReserved (view : String) : Bool := view = defaultLayer || view = commonLayer

structure ViewTree where
  views : Entries String Record
  deriving DecidableEq, Inhabited

namespace ViewTree

def empty : ViewTree := ⟨[]⟩

def get? (t : ViewTree) (view : String) : Option Record := Entries.get? t.views view

def has (t : ViewTree) (view : String) : Bool := Entries.has t.views view

def insert (t : ViewTree) (view : String) (config : Record) : ViewTree :=
  ⟨Entries.put t.views view config⟩

def remove (t : ViewTree) (view : String) : ViewTree := ⟨Entries.without t.views view⟩

def settings (t : ViewTree) (view : String) : Record := (t.get? view).getD []

def ensure (t : ViewTree) (view : String) : ViewTree :=
  if t.has view then t else t.insert view []

def common? (t : ViewTree) : Option Record := t.get? commonLayer

def viewNames (t : ViewTree) : List String :=
  (t.views.map Prod.fst).filter fun view => !isReserved view

def map (f : Record → Record) (t : ViewTree) : ViewTree :=
  ⟨t.views.map fun e => (e.1, f e.2)⟩

def toValue (t : ViewTree) : Value :=
  .record (t.views.map fun e => (.string e.1, .record e.2))

def configOf : Value → Record
  | .record entries => entries
  | _ => []

/-- Every key names a view by its text; a later key of the same name replaces the settings. -/
def ofEntries (entries : Record) : ViewTree :=
  ⟨Entries.ofPairs (entries.map fun e => (e.1.keyText, configOf e.2))⟩

def entryNotices (source : String) (entries : Record) : List Notice :=
  entries.filterMap fun e =>
    match e.2 with
    | .record _ | .null => none
    | other => some (.viewNotRecord source e.1.keyText other.kindName)

def notRecord (source : String) (found : Value) : Error :=
  .malformed source ("expected a mapping of view names, found " ++ found.kindName)
    (some "Top-level keys must be view names such as 'all'")

/-- A document is a record of views or null, under any number of tags. -/
def ofValue? (source : String) (v : Value) : Except Error ViewTree :=
  match v.untagged with
  | .null => .ok empty
  | .record entries => .ok (ofEntries entries)
  | other => .error (notRecord source other)

def valueNotices (source : String) (v : Value) : List Notice :=
  match v.untagged with
  | .record entries => entryNotices source entries
  | _ => []

/-- Equality as records: neither the order of views nor that of settings counts. -/
def same (s t : ViewTree) : Bool := s.toValue == t.toValue

end ViewTree

end ViewLayers
