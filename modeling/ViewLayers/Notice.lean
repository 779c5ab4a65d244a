import ViewLayers.Statement

/-!
# Notices

What a run may report beside its result. A notice is an event with its circumstances; its
severity, the part of the program that reports it and its wording are functions of it.
-/

namespace ViewLayers

inductive Severity where
  | error
  | warn
  | info
  | debug
  | trace
  deriving DecidableEq, Repr

namespace Severity

def rank : Severity → Nat
  | .error => 1
  | .warn => 2
  | .info => 3
  | .debug => 4
  | .trace => 5

def label : Severity → String
  | .error => "ERROR"
  | .warn => "WARN"
  | .info => "INFO"
  | .debug => "DEBUG"
  | .trace => "TRACE"

end Severity

inductive Notice where
  | viewNotRecord (source view kind : String)
  | assetListNotList (layer setting kind : String)
  | assetListsJoined (count : Nat) (setting : String)
  | layerFolded (count : Nat)
  | overlayWins (path kept given : String)
  | constantSkipped (name : String)
  | fileRead (path : String)
  | patternUnmatched (pattern : String)
  | slotCleared (name : String)
  | assetNameless (kind : AssetKind)
  | assetsCleared (kind : AssetKind) (count : Nat)
  | assetRemoved (kind : AssetKind) (name : String)
  | assetQueued (kind : AssetKind) (name : String)
  | branchBuilt (subject : Subject) (view : String)
  | initializerBuilt (views : Nat)
  | moduleFound (name path : String)
  | fileWritten (path : String)
  deriving DecidableEq, Repr

namespace Notice

def severity : Notice → Severity
  | .viewNotRecord .. | .assetListNotList .. | .constantSkipped _ | .patternUnmatched _
  | .slotCleared _ | .assetNameless _ => .warn
  | .fileWritten _ => .info
  | .assetListsJoined .. | .layerFolded _ | .fileRead _ | .initializerBuilt _
  | .moduleFound .. => .debug
  | .overlayWins .. | .assetsCleared .. | .assetRemoved .. | .assetQueued ..
  | .branchBuilt .. => .trace

/-- The part of the program that a filter of notices names. -/
def origin : Notice → String
  | .viewNotRecord .. => "view_config::config"
  | .assetListNotList .. | .assetListsJoined .. | .layerFolded _ => "view_config::merge"
  | .overlayWins .. => "view_config::merge::yaml"
  | .constantSkipped _ => "view_config::constants"
  | .fileRead _ | .patternUnmatched _ => "view_config::loader"
  | .slotCleared _ => "view_config::emit"
  | .assetNameless _ | .assetsCleared .. | .assetRemoved .. | .assetQueued .. =>
    "view_config::assets"
  | .branchBuilt .. => "view_config::codegen::dispatch"
  | .initializerBuilt _ => "view_config::codegen"
  | .moduleFound .. => "view_config::commands::build"
  | .fileWritten _ => "view_config::commands::compile"

def kindLabel : AssetKind → String
  | .stylesheet => "Stylesheet"
  | .javascript => "Javascript"

def subjectLabel : Subject → String
  | .actionView => "ActionView"
  | .templateView => "TemplateView"

def text : Notice → String
  | .viewNotRecord source view kind =>
    source ++ ": view '" ++ view ++ "' is a " ++ kind ++ ", not a mapping; treating it as empty"
  | .assetListNotList layer setting kind =>
    "'" ++ layer ++ "." ++ setting ++ "' is a " ++ kind ++ ", not a list; ignoring it"
  | .assetListsJoined count setting =>
    "Merged " ++ toString count ++ " " ++ setting ++ " into 'all'"
  | .layerFolded count =>
    "Folding " ++ toString count ++ " key(s) from 'default' into 'all'"
  | .overlayWins path kept given =>
    "Overlay wins at '" ++ path ++ "': " ++ kept ++ " -> " ++ given
  | .constantSkipped name => "Constant '" ++ name ++ "' is not a scalar; skipping it"
  | .fileRead path => "Read configuration file " ++ path
  | .patternUnmatched pattern =>
    "Pattern '" ++ pattern ++ "' matched no configuration files"
  | .slotCleared name => "Component slot '" ++ name ++ "' has no module/action; clearing it"
  | .assetNameless kind => "Skipping " ++ kindLabel kind ++ " entry without a name"
  | .assetsCleared kind count =>
    kindLabel kind ++ ": clearing " ++ toString count ++ " queued asset(s)"
  | .assetRemoved kind name => kindLabel kind ++ ": removing '" ++ name ++ "'"
  | .assetQueued kind name => kindLabel kind ++ ": queueing '" ++ name ++ "'"
  | .branchBuilt subject view => subjectLabel subject ++ ": branch for '" ++ view ++ "'"
  | .initializerBuilt views =>
    "Generating initializer for " ++ toString views ++ " view(s)"
  | .moduleFound name path => "Found module '" ++ name ++ "' at " ++ path
  | .fileWritten path => "Wrote " ++ path

end Notice

end ViewLayers
