import ViewLayers.Value.Key
import ViewLayers.Calendar

/-!
# Statements of an initializer

An initializer has two phases. Each compares a name, known only when the initializer runs,
with the views of a configuration and carries out the statements of the view that matches, or
the general ones.
-/

namespace ViewLayers

inductive AssetKind where
  | stylesheet
  | javascript
  deriving DecidableEq, Repr

def AssetKind.setting : AssetKind → String
  | .stylesheet => "stylesheets"
  | .javascript => "javascripts"

structure Asset where
  name : String
  position : String
  options : Record
  deriving DecidableEq

inductive LayoutMode where
  /-- The view has a layout of its own, which is set whatever was set before. -/
  | own
  /-- The layout comes from the common layer and gives way to one that was set before. -/
  | inherited
  deriving DecidableEq, Repr

inductive Statement where
  | captureResponse
  | selectTemplate (name : Option String)
  | applyLayout (layout : Option String) (mode : LayoutMode)
  | setComponentSlot (name : String) (module action : Option String)
  | addHttpMeta (name content : String)
  | addMeta (name content : String)
  | setEscapingMethod (method : Value)
  | addAsset (kind : AssetKind) (asset : Asset)
  deriving DecidableEq

inductive Subject where
  | actionView
  | templateView
  deriving DecidableEq, Repr

structure Branch where
  view : String
  body : List Statement
  deriving DecidableEq

structure Dispatch where
  subject : Subject
  branches : List Branch
  fallback : List Statement
  deriving DecidableEq

namespace Dispatch

def isConditional (d : Dispatch) : Bool := !d.branches.isEmpty

def bodyFor (d : Dispatch) (name : String) : List Statement :=
  match d.branches.find? fun b => b.view = name with
  | some b => b.body
  | none => d.fallback

end Dispatch

structure Procedure where
  generatedAt : Moment
  prelude : List Statement
  templatePhase : Dispatch
  setupPhase : Dispatch
  deriving DecidableEq

end ViewLayers
