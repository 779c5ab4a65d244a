import ViewLayers.Script.Literal
import ViewLayers.Json.Canonical
import ViewLayers.Compile

/-!
# Scripts

A procedure as the body of a script. Every statement is a few lines; the lines of a branch are
indented by one step under the line that opens it. A phase without branches is written without
any condition.
-/

namespace ViewLayers.Script

structure Line where
  depth : Nat
  text : String
  deriving DecidableEq, Repr

namespace Line

def indent (l : Line) : Line := ⟨l.depth + 1, l.text⟩

def chars (l : Line) : List Char :=
  List.replicate (2 * l.depth) ' ' ++ l.text.toList ++ ['\n']

end Line

def flush (texts : List String) : List Line := texts.map (Line.mk 0)

def valueLiteral : Value → String
  | .string s => literal s
  | .tagged _ v => valueLiteral v
  | .null => "null"
  | .bool b => Json.compact (Json.ofValue (.bool b))
  | .int n => Json.compact (Json.ofValue (.int n))
  | .float x => Json.compact (Json.ofValue (.float x))
  | .list items => Json.compact (Json.ofValue (.list items))
  | .record entries => Json.compact (Json.ofValue (.record entries))

def recordLiteral (r : Record) : String := Json.compact (Json.ofRecord r)

def overrideStart : String := "view.moduleName + '_' + view.actionName + "

def templateDefault : Option String → String
  | none => "view.actionName"
  | some name => literal name

def decorator : Option String → String
  | none => "false"
  | some name => literal name ++ " + view.extension()"

def layoutGuard : LayoutMode → String
  | .own => "\x7d else \x7b"
  | .inherited =>
    "\x7d else if (view.getDecoratorTemplate() === null && "
      ++ "!view.request().isXmlHttpRequest()) \x7b"

def slotMessage (name : String) (module action : Option String) : String :=
  "Set component \"" ++ name ++ "\" (" ++ module.getD "" ++ "/" ++ action.getD "" ++ ")"

def assetMethod : AssetKind → String
  | .stylesheet => "addStylesheet"
  | .javascript => "addJavascript"

def statementLines : Statement → List Line
  | .captureResponse => flush ["const response = view.response();"]
  | .selectTemplate name =>
    flush ["templateName = overrides.get(" ++ overrideStart ++ "'_template') ?? "
        ++ templateDefault name ++ ";",
      "view.setTemplate(templateName + view.viewName + view.extension());"]
  | .applyLayout layout mode =>
    [⟨0, "const layout = overrides.get(" ++ overrideStart ++ "'_layout');"⟩,
      ⟨0, "if (layout !== null && layout !== undefined) \x7b"⟩,
      ⟨1, "view.setDecoratorTemplate(layout === false ? false : layout + view.extension());"⟩,
      ⟨0, layoutGuard mode⟩,
      ⟨1, "view.setDecoratorTemplate(" ++ decorator layout ++ ");"⟩,
      ⟨0, "\x7d"⟩]
  | .setComponentSlot name module action =>
    flush ["view.setComponentSlot(" ++ literal name ++ ", " ++ optionalLiteral module ++ ", "
        ++ optionalLiteral action ++ ");",
      "if (settings.get('logging_enabled')) view.log("
        ++ literal (slotMessage name module action) ++ ");"]
  | .addHttpMeta name content =>
    flush ["response.addHttpMeta(" ++ literal name ++ ", " ++ literal content ++ ", false);"]
  | .addMeta name content =>
    flush ["response.addMeta(" ++ literal name ++ ", " ++ literal content ++ ", false, false);"]
  | .setEscapingMethod method =>
    flush ["view.setEscapingMethod(" ++ valueLiteral method ++ ");"]
  | .addAsset kind asset =>
    flush ["response." ++ assetMethod kind ++ "(" ++ literal asset.name ++ ", "
      ++ literal asset.position ++ ", " ++ recordLiteral asset.options ++ ");"]

def bodyLines (body : List Statement) : List Line := body.flatMap statementLines

def blockLines (body : List Statement) : List Line := (bodyLines body).map Line.indent

def subjectText : Subject → String
  | .actionView => "view.actionName + view.viewName"
  | .templateView => "templateName + view.viewName"

def branchLines (subject : Subject) (opening : String) (b : Branch) : List Line :=
  ⟨0, opening ++ " (" ++ subjectText subject ++ " === " ++ literal b.view ++ ") \x7b"⟩
    :: blockLines b.body

def dispatchLines (d : Dispatch) : List Line :=
  match d.branches with
  | [] => bodyLines d.fallback
  | first :: others =>
    branchLines d.subject "if" first
      ++ others.flatMap (branchLines d.subject "\x7d else if")
      ++ ⟨0, "\x7d else \x7b"⟩ :: blockLines d.fallback ++ [⟨0, "\x7d"⟩]

def header : String := "// auto-generated by view-config"

def procedureLines (p : Procedure) : List Line :=
  flush [header, "// date: " ++ p.generatedAt.headerText]
    ++ bodyLines p.prelude
    ++ flush ["let templateName;", ""]
    ++ dispatchLines p.templatePhase
    ++ flush [""]
    ++ dispatchLines p.setupPhase

def render (p : Procedure) : String := String.ofList ((procedureLines p).flatMap Line.chars)

end ViewLayers.Script
