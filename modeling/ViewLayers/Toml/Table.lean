import ViewLayers.Entries
import ViewLayers.Toml.Basic

/-!
# Tables under construction

A header opens a table, and a dotted key the tables on its way. A table may be opened once by
a header of its own, and one opened by dotted keys may grow only by such keys. Of an array of
tables the last one is meant.
-/

namespace ViewLayers.Toml

inductive Origin where
  | header
  | passed
  | dotted
  deriving DecidableEq

inductive Item where
  | value (v : Toml)
  | table (origin : Origin) (members : List (String × Item))
  | tables (all : List (List (String × Item)))

abbrev Members := List (String × Item)

namespace Members

def change (f : Members → Option Members) : List String → Members → Option Members
  | [], ms => f ms
  | name :: path, ms => do
    match Entries.get? ms name with
    | none => return Entries.put ms name (.table .passed (← change f path []))
    | some (.table origin inner) =>
      return Entries.put ms name (.table origin (← change f path inner))
    | some (.tables all) =>
      let last := all.getLast?.getD []
      return Entries.put ms name (.tables (all.dropLast ++ [← change f path last]))
    | some (.value _) => none

def openTable (name : String) (ms : Members) : Option Members :=
  match Entries.get? ms name with
  | none => some (Entries.put ms name (.table .header []))
  | some (.table .passed inner) => some (Entries.put ms name (.table .header inner))
  | some _ => none

def openNext (name : String) (ms : Members) : Option Members :=
  match Entries.get? ms name with
  | none => some (Entries.put ms name (.tables [[]]))
  | some (.tables all) => some (Entries.put ms name (.tables (all ++ [[]])))
  | some _ => none

/-- Sets a value in the table that is open, under a key of which `path` is all but the end. -/
def define (name : String) (v : Toml) : List String → Members → Option Members
  | [], ms => if Entries.has ms name then none else some (Entries.put ms name (.value v))
  | part :: path, ms => do
    match Entries.get? ms part with
    | none => return Entries.put ms part (.table .dotted (← define name v path []))
    | some (.table .dotted inner) =>
      return Entries.put ms part (.table .dotted (← define name v path inner))
    | some (.table .passed inner) =>
      if path.isEmpty then none
      return Entries.put ms part (.table .passed (← define name v path inner))
    | some (.tables all) =>
      if path.isEmpty then none
      let last := all.getLast?.getD []
      return Entries.put ms part (.tables (all.dropLast ++ [← define name v path last]))
    | some (.table .header _) | some (.value _) => none

end Members

mutual

def Item.finish : Item → Toml
  | .value v => v
  | .table _ members => .table (finishMembers members)
  | .tables all => .array (finishAll all)

def finishMembers : List (String × Item) → List (String × Toml)
  | [] => []
  | (name, i) :: rest => (name, i.finish) :: finishMembers rest

def finishAll : List (List (String × Item)) → List Toml
  | [] => []
  | ms :: rest => .table (finishMembers ms) :: finishAll rest

end

end ViewLayers.Toml
