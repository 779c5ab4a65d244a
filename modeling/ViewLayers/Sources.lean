import ViewLayers.FileTree
import ViewLayers.Layers
import ViewLayers.Yaml.Reader

/-!
# Reading trees

A tree is read from one text, or from several files laid over each other in turn. A file that
cannot be read or holds no record stops the reading.
-/

namespace ViewLayers

def malformed (source : String) (f : Yaml.Fault) : Error := .malformed source f.message none

def ViewTree.ofText (source text : String) : Except Error ViewTree × List Notice :=
  match Yaml.read text with
  | .error f => (.error (malformed source f), [])
  | .ok v => (ofValue? source v, valueNotices source v)

/-- The record of a text. Here a tag on the whole document is not looked through. -/
def Record.ofText (source text : String) : Except Error Record :=
  match Yaml.read text with
  | .error f => .error (malformed source f)
  | .ok .null => .ok []
  | .ok (.record entries) => .ok entries
  | .ok other => .error (ViewTree.notRecord source other)

def Record.ofFile (files : FileTree) (path : String) : Except Error Record × List Notice :=
  match files.readText path with
  | .error f => (.error (.unreadable path f.message), [])
  | .ok text => (ofText path text, [.fileRead path])

def layFiles (files : FileTree) (below : Record) :
    List String → Except Error Record × List Notice
  | [] => (.ok below, [])
  | path :: rest =>
    match Record.ofFile files path with
    | (.error e, notices) => (.error e, notices)
    | (.ok layer, notices) =>
      let (result, more) := layFiles files (Record.overlay below layer) rest
      (result, notices ++ Record.clashes "" below layer ++ more)

/-- The tree of several files. Messages about the whole name all of them. -/
def loadTree (files : FileTree) (paths : List String) : Except Error ViewTree × List Notice :=
  match layFiles files [] paths with
  | (.error e, notices) => (.error e, notices)
  | (.ok entries, notices) =>
    (.ok (ViewTree.ofEntries entries),
      notices ++ ViewTree.entryNotices (", ".intercalate paths) entries)

end ViewLayers
