import ViewLayers.CommandLine.Command
import ViewLayers.CommandLine.Outcome
import ViewLayers.Compile
import ViewLayers.Constants.File
import ViewLayers.Json.Exact
import ViewLayers.PathPattern.Search
import ViewLayers.Script.Render
import ViewLayers.Sources
import ViewLayers.Step
import ViewLayers.Yaml.Writer

/-!
# Compiling and merging files

Both commands find their files, then read the constants, then the files. Nothing is written
before the whole result is there, so a failure leaves every file as it was, and so does a counter
that runs over. Merging needs no counter.
-/

namespace ViewLayers

def compileFiles (files : FileTree) (paths : List String) (constants : Constants)
    (generatedAt : Moment) : Step Error Compiled :=
  Step.andThen (loadTree files paths) fun raw =>
    (.ok (compileTree constants.lookup generatedAt raw), compileNotices constants.lookup raw)

def compileFiles? (files : FileTree) (paths : List String) (constants : Constants)
    (generatedAt : Moment) : Step Error (Option Compiled) :=
  Step.andThen (loadTree files paths) fun raw =>
    match compileTree? constants.lookup generatedAt raw with
    | some compiled => (.ok (some compiled), compileNotices constants.lookup raw)
    | none => (.ok none, overflowNotices constants.lookup raw)

def MergeOptions.loadConstants (o : MergeOptions) (files : FileTree) : Step Failure Constants :=
  match o.constants with
  | none => Step.done Constants.empty
  | some path =>
    Step.mapError (fun e => ⟨"Failed to load constants from " ++ path, some e.message⟩)
      (Constants.ofFile files path)

def chosenFiles (files : FileTree) (arguments : List String) : Step Failure (List String) :=
  Step.andThen (Step.mapError Failure.ofError (expandPaths files arguments)) fun paths =>
    if paths.isEmpty then
      Step.fail ⟨"No configuration files matched " ++ ", ".intercalate arguments, none⟩
    else Step.done paths

def endedLine (text : String) : String := if text.endsWith "\n" then text else text ++ "\n"

def OutputFormat.write (f : OutputFormat) (p : Procedure) : Except Error String :=
  match f with
  | .script => .ok (Script.render p)
  | .json => p.jsonText.mapError .json

/-- What is compiled as the text to deliver, with the end of its last line. -/
def OutputFormat.deliverable (f : OutputFormat) : Option Compiled → Step Error (Option String)
  | none => Step.done none
  | some compiled => ((f.write compiled.procedure).map fun text => some (endedLine text), [])

namespace CompileOptions

/-- The text to deliver, or none if a counter runs over before there is one. -/
def text (o : CompileOptions) (now : Moment) (files : FileTree) : Step Failure (Option String) :=
  Step.andThen (chosenFiles files o.files) fun paths =>
    Step.andThen (o.merge.loadConstants files) fun constants =>
      let generatedAt := o.merge.date.getD now
      Step.mapError Failure.ofError <|
        Step.andThen (compileFiles? files paths constants generatedAt) o.format.deliverable

def run (o : CompileOptions) (now : Moment) (files : FileTree) : Outcome :=
  match o.text now files with
  | (.error f, notices) => .failed files f notices
  | (.ok none, notices) => .overflowed files notices
  | (.ok (some text), notices) =>
    match o.output with
    | none => .succeeded files text notices
    | some path =>
      match files.writeText path text with
      | .ok files => .succeeded files "" (notices ++ [.fileWritten path])
      | .error f => .failed files (.ofFile ("Failed to write " ++ path) f) notices

end CompileOptions

namespace MergedOptions

def text (o : MergedOptions) (files : FileTree) : Step Failure String :=
  Step.andThen (chosenFiles files o.files) fun paths =>
    Step.andThen (o.merge.loadConstants files) fun constants =>
      Step.mapError Failure.ofError <|
        Step.andThen (loadTree files paths) fun raw =>
          (Yaml.write (raw.mergeLayers constants.lookup).toValue, raw.mergeNotices)

def run (o : MergedOptions) (files : FileTree) : Outcome :=
  match o.text files with
  | (.error f, notices) => .failed files f notices
  | (.ok text, notices) => .succeeded files text notices

end MergedOptions

end ViewLayers
