import ViewLayers.CommandLine.Compile
import ViewLayers.Terminal

/-!
# Building modules

A module is a directory with a file `config/view.yml`. Every module is compiled on its own,
from the configuration of the application, if there is one, and its own file, which is laid
over it. A module that fails leaves the others alone. The counters of the modules are taken to have
numbers enough: what is left behind when one runs over depends on how far the others have come.
-/

namespace ViewLayers

structure ViewModule where
  name : String
  path : String
  deriving DecidableEq, Repr

namespace ViewModule

def fileParts : List String := ["config", "view.yml"]

def isAt (files : FileTree) (here : Place) : Bool :=
  match files.node? (here ++ fileParts) with
  | some (.file _) => true
  | _ => false

def discover (files : FileTree) (dir : String) : List ViewModule :=
  match files.place dir with
  | .error _ => []
  | .ok here =>
    (files.children here).filterMap fun child =>
      if isAt files (here ++ [child.1]) then
        some ⟨child.1, (child.1 :: fileParts).foldl FileTree.join dir⟩
      else none

def outFile (outDir : String) (m : ViewModule) : String := FileTree.join outDir (m.name ++ ".js")

end ViewModule

structure BuildPlan where
  appConfig : Option String
  outDir : String
  constants : Constants
  generatedAt : Moment

namespace BuildPlan

def script (p : BuildPlan) (files : FileTree) (m : ViewModule) : Step Failure String :=
  Step.mapError Failure.ofError <|
    Step.andThen (compileFiles files (p.appConfig.toList ++ [m.path]) p.constants p.generatedAt)
      fun compiled => Step.done (Script.render compiled.procedure)

structure Result where
  built : ViewModule
  written : Except Failure String

def buildModule (p : BuildPlan) (files : FileTree) (m : ViewModule) :
    FileTree × Result × List Notice :=
  match p.script files m with
  | (.error f, notices) => (files, ⟨m, .error f⟩, notices)
  | (.ok text, notices) =>
    let path := m.outFile p.outDir
    match files.writeText path text with
    | .ok files => (files, ⟨m, .ok path⟩, notices)
    | .error f => (files, ⟨m, .error (.ofFile ("Failed to write " ++ path) f)⟩, notices)

def buildAll (p : BuildPlan) (files : FileTree) :
    List ViewModule → FileTree × List Result × List Notice
  | [] => (files, [], [])
  | m :: rest =>
    let (files, result, notices) := p.buildModule files m
    let (files, results, more) := p.buildAll files rest
    (files, result :: results, notices ++ more)

end BuildPlan

namespace BuildOptions

def scanLine (color : Bool) (o : BuildOptions) (modules : List ViewModule) : String :=
  statusLine color .scan
    ("Found " ++ toString modules.length ++ " module(s) in " ++ o.modulesDir) ++ "\n"

def writtenLine? (color : Bool) (r : BuildPlan.Result) : Option String :=
  match r.written with
  | .ok path => some (statusLine color .wrote path ++ "\n")
  | .error _ => none

def failedLine? (color : Bool) (r : BuildPlan.Result) : Option String :=
  match r.written with
  | .ok _ => none
  | .error f => some (statusLine color .failed (r.built.name ++ ": " ++ f.inline))

def notFound (o : BuildOptions) : Failure :=
  ⟨"Modules directory " ++ o.modulesDir ++ " does not exist", none⟩

def someFailed (failed all : Nat) : Failure :=
  ⟨toString failed ++ " of " ++ toString all ++ " module(s) failed to compile", none⟩

def conclude (color : Bool) (files : FileTree) (start : String) (messages : List Message)
    (results : List BuildPlan.Result) : Outcome :=
  let written := String.join (results.filterMap (writtenLine? color))
  let failures := results.filterMap (failedLine? color)
  let messages := messages ++ failures.map .plain
  if failures.isEmpty then
    let done := statusLine color .done (toString results.length ++ " module(s) compiled")
    ⟨.success, start ++ written ++ done ++ "\n", messages, files⟩
  else
    let f := someFailed failures.length results.length
    ⟨.failure, start ++ written, messages ++ [.plain f.report], files⟩

def run (o : BuildOptions) (color : Bool) (now : Moment) (files : FileTree) : Outcome :=
  if !files.isDirectory o.modulesDir then .failed files o.notFound []
  else
    let modules := ViewModule.discover files o.modulesDir
    let found := modules.map fun m => Notice.moduleFound m.name m.path
    let start := scanLine color o modules
    let stopped (files : FileTree) (f : Failure) (notices : List Notice) : Outcome :=
      { Outcome.failed files f (found ++ notices) with output := start }
    if modules.isEmpty then .succeeded files start found
    else
      match files.createDirectories o.outDir with
      | .error f => stopped files (.ofFile ("Failed to create " ++ o.outDir) f) []
      | .ok files =>
        match o.merge.loadConstants files with
        | (.error f, notices) => stopped files f notices
        | (.ok constants, notices) =>
          let plan : BuildPlan := ⟨o.appConfig, o.outDir, constants, o.merge.date.getD now⟩
          let (files, results, more) := plan.buildAll files modules
          conclude color files start ((found ++ notices ++ more).map .notice) results

end BuildOptions

end ViewLayers
