import Std.Time.Format
import ViewLayers.CommandLine.Run

/-!
# The program

Reads the files below the working directory, runs on them, and writes what the run has changed.
-/

namespace ViewLayers

def environmentNames : List String :=
  ["NO_COLOR", "CLICOLOR", "CLICOLOR_FORCE", "TERM", "CI", "VIEW_CONFIG_CONSTANTS", "RUST_LOG",
    "RUST_LOG_STYLE"]

def readEnvironment : IO Environment := do
  let values ← environmentNames.mapM fun name => return (name, ← IO.getEnv name)
  return fun name => (values.lookup name).join

def readClock : IO Moment := do
  let t ← Std.Time.PlainDateTime.now
  return ⟨t.year, t.month.val.toNat, t.day.val.toNat, t.hour.val.toNat, t.minute.val.toNat,
    t.second.val.toNat, t.nanosecond.val.toNat⟩

partial def readEntry (above : Place) (e : IO.FS.DirEntry) : IO (List (Place × FileNode)) := do
  let here := above ++ [e.fileName]
  if ← e.path.isDir then
    let below ← (← e.path.readDir).toList.mapM (readEntry here)
    return (here, .directory) :: below.flatten
  else
    try return [(here, .file (← IO.FS.readBinFile e.path))]
    catch _ => return []

def readFiles : IO FileTree := do
  let entries ← (← (← IO.currentDir).readDir).toList.mapM (readEntry [])
  return ⟨entries.flatten⟩

def writeChanges (before after : FileTree) : IO Unit :=
  for (place, node) in after.nodes do
    if !(before.node? place).any (FileNode.same node) then
      let path := "/".intercalate place
      match node with
      | .directory => IO.FS.createDirAll path
      | .file content => IO.FS.writeBinFile path content

def serve (arguments : List String) : IO UInt32 := do
  let surroundings : Surroundings :=
    ⟨← readEnvironment, ← readClock, ← readFiles, ← (← IO.getStdout).isTty,
      ← (← IO.getStderr).isTty⟩
  let finished := runProgram surroundings arguments
  writeChanges surroundings.files finished.files
  IO.print finished.output
  finished.messages.forM IO.eprintln
  return finished.status.code.toUInt32

end ViewLayers

def main (arguments : List String) : IO UInt32 := ViewLayers.serve arguments
