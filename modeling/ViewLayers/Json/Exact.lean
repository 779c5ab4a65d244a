import ViewLayers.Json.Basic
import ViewLayers.Value.Text
import ViewLayers.Error
import ViewLayers.Compile

/-!
# Procedures as JSON

A procedure as a document that keeps every detail: records keep their order and a tag becomes
an object with one member. Keys must be texts, whole numbers, truth values or finite numbers;
the first other key, in the order of the output, is the fault.
-/

namespace ViewLayers

namespace Json

def memberName : Value → Except JsonFault String
  | .string s => .ok s
  | .int n => .ok (toString n)
  | .bool b => .ok (boolText b)
  | .float x => if x.isFinite then .ok (floatText x) else .error .keyNotFinite
  | .null | .list _ | .record _ | .tagged _ _ => .error .keyNotText

mutual

def exact : Value → Except JsonFault Json
  | .null => .ok .null
  | .bool b => .ok (.bool b)
  | .int n => .ok (.int n)
  | .float x => .ok (if x.isFinite then .float x else .null)
  | .string s => .ok (.string s)
  | .list items => (exactItems items).map .array
  | .record entries => (exactEntries entries).map .object
  | .tagged t v => (exact v).map fun w => .object [("!" ++ t, w)]

def exactItems : List Value → Except JsonFault (List Json)
  | [] => .ok []
  | v :: vs => do
    let w ← exact v
    let ws ← exactItems vs
    .ok (w :: ws)

def exactEntries : List (Value × Value) → Except JsonFault (List (String × Json))
  | [] => .ok []
  | (k, v) :: es => do
    let name ← memberName k
    let w ← exact v
    let ms ← exactEntries es
    .ok ((name, w) :: ms)

end

def ofOptional (s : Option String) : Json := (s.map Json.string).getD .null

def kindName : AssetKind → String
  | .stylesheet => "stylesheet"
  | .javascript => "javascript"

def modeName : LayoutMode → String
  | .own => "local"
  | .inherited => "inherited"

def subjectName : Subject → String
  | .actionView => "action_view"
  | .templateView => "template_view"

def ofTemplate : Option String → Json
  | none => .object [("source", .string "action_name")]
  | some name => .object [("source", .string "named"), ("name", .string name)]

def operation (name : String) (members : List (String × Json)) : Json :=
  .object (("op", .string name) :: members)

def ofStatement : Statement → Except JsonFault Json
  | .captureResponse => .ok (operation "capture_response" [])
  | .selectTemplate name => .ok (operation "select_template" [("default", ofTemplate name)])
  | .applyLayout layout mode =>
    .ok (operation "apply_layout"
      [("layout", ofOptional layout), ("mode", .string (modeName mode))])
  | .setComponentSlot name module action =>
    .ok (operation "set_component_slot"
      [("name", .string name), ("module", ofOptional module), ("action", ofOptional action)])
  | .addHttpMeta name content =>
    .ok (operation "add_http_meta" [("name", .string name), ("content", .string content)])
  | .addMeta name content =>
    .ok (operation "add_meta" [("name", .string name), ("content", .string content)])
  | .setEscapingMethod method =>
    (exact method).map fun m => operation "set_escaping_method" [("method", m)]
  | .addAsset kind asset =>
    (exactEntries asset.options).map fun options =>
      operation "add_asset"
        [("kind", .string (kindName kind)), ("name", .string asset.name),
          ("position", .string asset.position), ("options", .object options)]

def ofStatements (body : List Statement) : Except JsonFault Json :=
  (body.mapM ofStatement).map .array

def ofBranch (b : Branch) : Except JsonFault Json :=
  (ofStatements b.body).map fun body => .object [("view", .string b.view), ("body", body)]

def ofDispatch (d : Dispatch) : Except JsonFault Json := do
  let branches ← d.branches.mapM ofBranch
  let fallback ← ofStatements d.fallback
  .ok (.object [("subject", .string (subjectName d.subject)), ("branches", .array branches),
    ("fallback", fallback)])

def ofProcedure (p : Procedure) : Except JsonFault Json := do
  let prelude ← ofStatements p.prelude
  let templatePhase ← ofDispatch p.templatePhase
  let setupPhase ← ofDispatch p.setupPhase
  .ok (.object [("generated_at", .string p.generatedAt.sortableText), ("prelude", prelude),
    ("template_phase", templatePhase), ("setup_phase", setupPhase)])

end Json

def Procedure.jsonText (p : Procedure) : Except JsonFault String :=
  (Json.ofProcedure p).map Json.pretty

end ViewLayers
