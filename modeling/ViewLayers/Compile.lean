import ViewLayers.Facets

/-!
# Compiling a tree

A merged tree becomes a procedure of two phases. The first selects a template by the name of
the action, the second sets up the view by the name of the template. Each phase has one branch
for every view that is not reserved, in the order of the tree, and falls back to the general
case. A tree for which a counter runs over has no procedure.
-/

namespace ViewLayers

def generalView : String := ""

namespace ViewTree

def phase (t : ViewTree) (subject : Subject) (body : String → List Statement) : Dispatch where
  subject := subject
  branches := t.viewNames.map fun view => ⟨view, body view⟩
  fallback := body generalView

def templatePhase (t : ViewTree) : Dispatch := t.phase .actionView t.templateStatements

def setupPhase (t : ViewTree) : Dispatch := t.phase .templateView t.setupStatements

def procedure (t : ViewTree) (generatedAt : Moment) : Procedure where
  generatedAt := generatedAt
  prelude := [.captureResponse]
  templatePhase := t.templatePhase
  setupPhase := t.setupPhase

def phaseNotices (t : ViewTree) (subject : Subject) (body : String → List Notice) :
    List Notice :=
  (t.viewNames.flatMap fun view => .branchBuilt subject view :: body view) ++ body generalView

def procedureNotices (t : ViewTree) : List Notice :=
  t.phaseNotices .actionView (fun _ => []) ++ t.phaseNotices .templateView t.setupNotices

def isCompilable (t : ViewTree) : Bool := t.viewNames.all t.setsUp

/-- The views that are set up until a counter runs over, with the one for which it does. -/
def reachedViews (t : ViewTree) : List String :=
  t.viewNames.take (t.viewNames.findIdx (!t.setsUp ·) + 1)

def overflowNotices (t : ViewTree) : List Notice :=
  t.phaseNotices .actionView (fun _ => []) ++
    t.reachedViews.flatMap fun view =>
      .branchBuilt .templateView view :: t.noticesUntilOverflow view

end ViewTree

structure Compiled where
  merged : ViewTree
  procedure : Procedure

def compileTree (lookup : String → Option String) (generatedAt : Moment) (raw : ViewTree) :
    Compiled :=
  let merged := raw.mergeLayers lookup
  ⟨merged, merged.procedure generatedAt⟩

def compileTree? (lookup : String → Option String) (generatedAt : Moment) (raw : ViewTree) :
    Option Compiled :=
  let compiled := compileTree lookup generatedAt raw
  if compiled.merged.isCompilable then some compiled else none

def compileNotices (lookup : String → Option String) (raw : ViewTree) : List Notice :=
  let merged := raw.mergeLayers lookup
  raw.mergeNotices ++ .initializerBuilt merged.viewNames.length :: merged.procedureNotices

def overflowNotices (lookup : String → Option String) (raw : ViewTree) : List Notice :=
  let merged := raw.mergeLayers lookup
  raw.mergeNotices ++ .initializerBuilt merged.viewNames.length :: merged.overflowNotices

end ViewLayers
