import ViewLayers.Tree
import ViewLayers.Constants
import ViewLayers.Value.Overlay

/-!
# Merging the layers

Three steps turn a tree as written into one in which `all` alone stands below the views: the
asset lists of `default` go in front of those of `all`, the rest of `default` is laid under
`all`, and constants replace placeholders. The lists go first because an overlay replaces
lists as a whole.
-/

namespace ViewLayers

def assetSettings : List String := ["stylesheets", "javascripts"]

def Value.items : Value → List Value
  | .list items => items
  | _ => []

namespace ViewTree

def layerSetting? (t : ViewTree) (layer setting : String) : Option Value :=
  (t.get? layer).bind fun config => config.setting? setting

def dropSetting (t : ViewTree) (view setting : String) : ViewTree :=
  ⟨t.views.map fun e =>
    if e.1 = view then (e.1, Entries.without e.2 (.string setting)) else e⟩

def setSetting (t : ViewTree) (view setting : String) (value : Value) : ViewTree :=
  t.insert view (Entries.put (t.settings view) (.string setting) value)

/-- Moves one asset list of `default` in front of that of `all`. A list that neither layer
carries is not written. -/
def joinAssetList (t : ViewTree) (setting : String) : ViewTree :=
  match t.layerSetting? defaultLayer setting, t.layerSetting? commonLayer setting with
  | none, none => t
  | below, above =>
    let joined := (below.map Value.items).getD [] ++ (above.map Value.items).getD []
    (t.dropSetting defaultLayer setting).setSetting commonLayer setting (.list joined)

def joinAssetLists (t : ViewTree) : ViewTree := assetSettings.foldl joinAssetList t

/-- Lays `all` over `default` and drops `default`; afterwards there is an `all`. -/
def foldDefault (t : ViewTree) : ViewTree :=
  (t.remove defaultLayer).insert commonLayer
    (Record.overlay (t.settings defaultLayer) (t.settings commonLayer))

def substitute (lookup : String → Option String) (t : ViewTree) : ViewTree :=
  t.map (Record.substitute lookup)

def mergeLayers (lookup : String → Option String) (t : ViewTree) : ViewTree :=
  (t.joinAssetLists.foldDefault).substitute lookup

def assetListNotices (layer setting : String) : Option Value → List Notice
  | none | some .null | some (.list _) => []
  | some other => [.assetListNotList layer setting other.kindName]

def joinAssetListNotices (t : ViewTree) (setting : String) : List Notice :=
  match t.layerSetting? defaultLayer setting, t.layerSetting? commonLayer setting with
  | none, none => []
  | below, above =>
    let joined := (below.map Value.items).getD [] ++ (above.map Value.items).getD []
    assetListNotices defaultLayer setting below ++ assetListNotices commonLayer setting above
      ++ [.assetListsJoined joined.length setting]

def joinAssetListsNotices (t : ViewTree) : List Notice :=
  (assetSettings.foldl
    (fun (t, notices) setting =>
      (joinAssetList t setting, notices ++ joinAssetListNotices t setting))
    (t, [])).2

end ViewTree

def childPath (path : String) (key : Value) : String :=
  let name := match key with
    | .string s => s
    | other => other.detail
  if path.isEmpty then name else path ++ "." ++ name

mutual

/-- Reports the clashes of two values at a key that the overlay wins as a whole. -/
def Value.clashes (path : String) : Value → Value → List Notice
  | .record base, overlay =>
    match overlay with
    | .record entries => Record.clashes path base entries
    | other => [.overlayWins path "Mapping" other.kindName]
  | value, overlay => [.overlayWins path value.kindName overlay.kindName]

def Record.clashes (path : String) : List (Value × Value) → List (Value × Value) → List Notice
  | [], _ => []
  | (k, v) :: rest, overlay =>
    let here := match Entries.get? overlay k with
      | some w => Value.clashes (childPath path k) v w
      | none => []
    here ++ Record.clashes path rest overlay

end

namespace ViewTree

def foldDefaultNotices (t : ViewTree) : List Notice :=
  let below := t.settings defaultLayer
  (if below.isEmpty then [] else [.layerFolded below.length])
    ++ Record.clashes "" below (t.settings commonLayer)

def mergeNotices (t : ViewTree) : List Notice :=
  t.joinAssetListsNotices ++ t.joinAssetLists.foldDefaultNotices

end ViewTree

end ViewLayers
