import ViewLayers.Resolve

/-!
# Asset lists

An asset list is carried out from the left on a queue. `-*` empties the queue, `-name` takes
a name out, and any other name is queued: at the end if it is new, else in its place with its
new options.
-/

namespace ViewLayers

structure AssetItem where
  name : String
  options : Record
  deriving DecidableEq

/-- An item is a scalar, or a record whose first entry gives the name and the options. -/
def AssetItem.ofValue : Value → AssetItem
  | .record [] => ⟨"", []⟩
  | .record ((key, options) :: _) => ⟨key.keyText, options.entries?.getD []⟩
  | other => ⟨other.scalarText, []⟩

def positionOption : String := "position"

def AssetItem.toAsset (item : AssetItem) : Asset where
  name := item.name
  position := ((item.options.setting? positionOption).map Value.scalarText).getD ""
  options := Entries.without item.options (.string positionOption)

inductive AssetDirective where
  | skip
  | clear
  | remove (name : String)
  | queue (asset : Asset)
  deriving DecidableEq

def AssetDirective.ofItem (item : AssetItem) : AssetDirective :=
  if item.name = "" then .skip
  else if item.name = "-*" then .clear
  else
    match item.name.toList with
    | '-' :: rest => .remove (String.ofList rest)
    | _ => .queue item.toAsset

def AssetDirective.ofValue (v : Value) : AssetDirective := .ofItem (.ofValue v)

abbrev AssetQueue := Entries String Asset

namespace AssetQueue

def apply (q : AssetQueue) : AssetDirective → AssetQueue
  | .skip => q
  | .clear => []
  | .remove name => Entries.without q name
  | .queue asset => Entries.put q asset.name asset

def run (items : List Value) : AssetQueue :=
  items.foldl (fun q v => q.apply (.ofValue v)) []

end AssetQueue

def compileAssets (items : List Value) : List Asset := (AssetQueue.run items).map Prod.snd

namespace AssetDirective

def notice (kind : AssetKind) (q : AssetQueue) : AssetDirective → Notice
  | .skip => .assetNameless kind
  | .clear => .assetsCleared kind q.length
  | .remove name => .assetRemoved kind name
  | .queue asset => .assetQueued kind asset.name

end AssetDirective

def assetNoticesFrom (kind : AssetKind) (q : AssetQueue) : List Value → List Notice
  | [] => []
  | v :: vs =>
    let d := AssetDirective.ofValue v
    d.notice kind q :: assetNoticesFrom kind (q.apply d) vs

def Value.assetItems : Value → List Value
  | .list items => items
  | .record entries => entries.map fun e => .record [e]
  | _ => []

end ViewLayers
