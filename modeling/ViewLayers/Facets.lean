import ViewLayers.Assets
import ViewLayers.Text.Markup

/-!
# The facets of a view

Each facet of a view, its template, layout, component slots, head, escaping and assets, gives
statements. A setting that is absent or has another shape than expected counts as its default,
so every tree has statements for every view; the empty name asks for the general case.
-/

namespace ViewLayers

def nonEmptyText? (v : Value) : Option String := v.scalarText?.filter fun s => !s.isEmpty

namespace ViewTree

def templateStatements (t : ViewTree) (view : String) : List Statement :=
  [.selectTemplate (((t.effective? "template" view).filter Value.isTruthy).bind
    Value.scalarText?)]

def layoutName? (t : ViewTree) (view : String) : Option String :=
  if ((t.effective? "has_layout" view).map Value.isTruthy).getD false then
    (t.effective? "layout" view).bind nonEmptyText?
  else none

/-- A view that mentions either layout setting has a layout of its own. -/
def layoutMode (t : ViewTree) (view : String) : LayoutMode :=
  if t.mentions "layout" view || t.mentions "has_layout" view then .own else .inherited

def layoutStatements (t : ViewTree) (view : String) : List Statement :=
  [.applyLayout (t.layoutName? view) (t.layoutMode view)]

def componentParts : Value → Option (Value × Value)
  | .list (module :: action :: _) => some (module, action)
  | _ => none

def slotStatement (name component : Value) : Statement :=
  match componentParts component with
  | some (module, action) =>
    .setComponentSlot name.keyText module.scalarText? action.scalarText?
  | none => .setComponentSlot name.keyText none none

def slotStatements (t : ViewTree) (view : String) : List Statement :=
  (t.combined "components" view).entries.map fun e => slotStatement e.1 e.2

def httpMetaStatements (t : ViewTree) (view : String) : List Statement :=
  (t.combined "http_metas" view).entries.map fun e => .addHttpMeta e.1.keyText e.2.scalarText

def metaStatements (t : ViewTree) (view : String) : List Statement :=
  (t.combined "metas" view).entries.map fun e =>
    .addMeta e.1.keyText (Text.metaContent e.2.scalarText)

def headStatements (t : ViewTree) (view : String) : List Statement :=
  t.httpMetaStatements view ++ t.metaStatements view

def escapingMethod? (t : ViewTree) (view : String) : Option Value :=
  (((t.effective? "escaping" view).bind Value.entries?).bind fun (r : Record) =>
    r.setting? "method").filter fun m => !m.isNull

def escapingStatements (t : ViewTree) (view : String) : List Statement :=
  ((t.escapingMethod? view).map Statement.setEscapingMethod).toList

def assetsOf (t : ViewTree) (kind : AssetKind) (view : String) : List Asset :=
  compileAssets (t.combined kind.setting view).assetItems

def assetStatements (t : ViewTree) (view : String) : List Statement :=
  [AssetKind.stylesheet, .javascript].flatMap fun kind =>
    (t.assetsOf kind view).map (.addAsset kind)

def setupStatements (t : ViewTree) (view : String) : List Statement :=
  t.layoutStatements view ++ t.slotStatements view ++ t.headStatements view
    ++ t.escapingStatements view ++ t.assetStatements view

def slotNotices (t : ViewTree) (view : String) : List Notice :=
  (t.combined "components" view).entries.filterMap fun e =>
    if (componentParts e.2).isNone then some (.slotCleared e.1.keyText) else none

def assetNotices (t : ViewTree) (view : String) : List Notice :=
  [AssetKind.stylesheet, .javascript].flatMap fun kind =>
    assetNoticesFrom kind [] (t.combined kind.setting view).assetItems

def setupNotices (t : ViewTree) (view : String) : List Notice :=
  t.slotNotices view ++ t.assetNotices view

/-- The additive settings as they are set up in turn, each with what is reported of it. -/
def additiveNotices (t : ViewTree) (view : String) : List (String × List Notice) :=
  [("components", t.slotNotices view), ("http_metas", []), ("metas", [])] ++
    [AssetKind.stylesheet, .javascript].map fun kind =>
      (kind.setting, assetNoticesFrom kind [] (t.combined kind.setting view).assetItems)

def setsUp (t : ViewTree) (view : String) : Bool :=
  (t.additiveNotices view).all fun e => (t.combined? e.1 view).isSome

def noticesUntilOverflow (t : ViewTree) (view : String) : List Notice :=
  ((t.additiveNotices view).takeWhile fun e => (t.combined? e.1 view).isSome).flatMap Prod.snd

end ViewTree

end ViewLayers
