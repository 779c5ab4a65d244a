import ViewLayers.Layers

/-!
# Settings of one view

After merging, a view stands above `all`. A plain setting is the view's own unless that is
null or absent; an additive setting is that of `all` followed by the view's. The empty name
stands for the general case, which has only `all`.

Items of a list that follow a record are numbered by a counter of 64 bits. What stands under the
numbers is told without a bound on them; the functions whose names end in `?` run the counter, and
give nothing if it runs over.
-/

namespace ViewLayers

/-- The unsigned whole number a key holds, under any number of tags. -/
def Value.index? (v : Value) : Option Nat :=
  match v.untagged with
  | .int n => if n < 0 then none else some n.toNat
  | _ => none

/-- The counter at a number, which must be one of 64 bits. -/
def counter? (n : Nat) : Option UInt64 :=
  if h : n < UInt64.size then some (.ofNatLT n h) else none

namespace Record

def nextIndex (r : Record) : Nat :=
  ((r.filterMap fun e => e.1.index?).max?.map (· + 1)).getD 0

@[simp] def putIndexed (r : Record) : Nat → List Value → Record
  | _, [] => r
  | next, v :: vs => putIndexed (Entries.put r (.int next) v) (next + 1) vs

def appendItems (r : Record) (items : List Value) : Record := r.putIndexed r.nextIndex items

/-- The counter goes one further behind every item, also behind the last. -/
def putCounted? : Record → UInt64 → List Value → Option Record
  | r, _, [] => some r
  | r, next, v :: vs => do
    let following ← counter? (next.toNat + 1)
    putCounted? (Entries.put r (.int next.toNat) v) following vs

def appendItems? (r : Record) (items : List Value) : Option Record := do
  r.putCounted? (← counter? r.nextIndex) items

def putAll (r : Record) (more : Record) : Record :=
  more.foldl (fun r e => Entries.put r e.1 e.2) r

end Record

/-- A collection followed by another. Beside a record, list items stand under indices. -/
def Value.append : Value → Value → Value
  | .list items, .list more => .list (items ++ more)
  | .record entries, .record more => .record (Record.putAll entries more)
  | .record entries, .list more => .record (Record.appendItems entries more)
  | .list items, .record more => .record (Record.putAll (Record.appendItems [] items) more)
  | base, _ => base

def Value.append? : Value → Value → Option Value
  | .record entries, .list more => (Record.appendItems? entries more).map .record
  | .list items, .record more =>
    (Record.appendItems? [] items).map fun numbered => .record (Record.putAll numbered more)
  | base, extra => some (base.append extra)

@[simp] def indexedFrom : Nat → List Value → Record
  | _, [] => []
  | i, v :: vs => (.int i, v) :: indexedFrom (i + 1) vs

def Value.entries : Value → Record
  | .record entries => entries
  | .list items => indexedFrom 0 items
  | _ => []

namespace ViewTree

def ownSetting? (t : ViewTree) (setting view : String) : Option Value :=
  (t.layerSetting? view setting).filter fun v => !v.isNull

def mentions (t : ViewTree) (setting view : String) : Bool :=
  (t.layerSetting? view setting).isSome

def effective? (t : ViewTree) (setting view : String) : Option Value :=
  (if view = "" then none else t.ownSetting? setting view).or (t.ownSetting? setting commonLayer)

def commonPart (t : ViewTree) (setting : String) : Value :=
  match t.ownSetting? setting commonLayer with
  | some v => if v.isCollection then v else .list []
  | none => .list []

def combined (t : ViewTree) (setting view : String) : Value :=
  if view = "" ∨ view = commonLayer then t.commonPart setting
  else
    match t.ownSetting? setting view with
    | some extra => (t.commonPart setting).append extra
    | none => t.commonPart setting

def combined? (t : ViewTree) (setting view : String) : Option Value :=
  if view = "" ∨ view = commonLayer then some (t.commonPart setting)
  else
    match t.ownSetting? setting view with
    | some extra => (t.commonPart setting).append? extra
    | none => some (t.commonPart setting)

end ViewTree

end ViewLayers
