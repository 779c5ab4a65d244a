import ViewLayers.Entries
import ViewLayers.Error

/-!
# Trees of files

The files below one working directory. A path is a text of names between slashes, where an
empty name or `.` stays and `..` goes up. Nothing is known of what lies outside.
-/

namespace ViewLayers

abbrev Place := List String

inductive FileNode where
  | file (content : ByteArray)
  | directory
  deriving Inhabited

def FileNode.same : FileNode → FileNode → Bool
  | .file a, .file b => a.data.toList == b.data.toList
  | .directory, .directory => true
  | _, _ => false

structure FileTree where
  nodes : Entries Place FileNode

namespace FileTree

def empty : FileTree := ⟨[]⟩

def node? (t : FileTree) (p : Place) : Option FileNode :=
  if p = [] then some .directory else Entries.get? t.nodes p

def names (path : String) : List String :=
  ((path.toList.splitOn '/').map String.ofList).filter fun s => s ≠ "" ∧ s ≠ "."

def isAbsolute (path : String) : Bool := path.startsWith "/"

def asksDirectory (path : String) : Bool :=
  path.endsWith "/" || path.endsWith "/." || path.endsWith "/.." || path = "." || path = ".."

/-- Goes down from a place. Every place that is left again must be a directory. -/
def walk (t : FileTree) (here : Place) : List String → Except FileFault Place
  | [] => .ok here
  | name :: rest =>
    match t.node? here with
    | none => .error .notFound
    | some (.file _) => .error .notDirectory
    | some .directory =>
      if name = ".." then
        if here = [] then .error .notFound else walk t here.dropLast rest
      else walk t (here ++ [name]) rest

def place (t : FileTree) (path : String) : Except FileFault Place :=
  if path = "" then .error .emptyPath
  else if isAbsolute path then .error .notFound
  else t.walk [] (names path)

def find (t : FileTree) (path : String) : Except FileFault FileNode := do
  let p ← t.place path
  match t.node? p with
  | none => .error .notFound
  | some (.file content) =>
    if asksDirectory path then .error .notDirectory else .ok (.file content)
  | some .directory => .ok .directory

def isDirectory (t : FileTree) (path : String) : Bool :=
  match t.find path with
  | .ok .directory => true
  | _ => false

def exists? (t : FileTree) (path : String) : Bool := (t.find path).isOk

def readText (t : FileTree) (path : String) : Except FileFault String := do
  match ← t.find path with
  | .directory => .error .isDirectory
  | .file content =>
    match String.fromUTF8? content with
    | some s => .ok s
    | none => .error .notText

def writeText (t : FileTree) (path text : String) : Except FileFault FileTree := do
  let p ← t.place path
  match t.node? p with
  | some .directory => .error .isDirectory
  | some (.file _) =>
    if asksDirectory path then .error .notDirectory
    else .ok ⟨Entries.put t.nodes p (.file text.toUTF8)⟩
  | none =>
    match t.node? p.dropLast with
    | some .directory =>
      if asksDirectory path then .error .isDirectory
      else .ok ⟨Entries.put t.nodes p (.file text.toUTF8)⟩
    | some (.file _) => .error .notDirectory
    | none => .error .notFound

def createDown (t : FileTree) (here : Place) : List String → Except FileFault FileTree
  | [] => .ok t
  | name :: rest =>
    if name = ".." then
      if here = [] then .error .notFound else createDown t here.dropLast rest
    else
      let there := here ++ [name]
      match t.node? there with
      | some .directory => createDown t there rest
      | some (.file _) => .error (if rest = [] then .exists else .notDirectory)
      | none => createDown ⟨Entries.put t.nodes there .directory⟩ there rest

def createDirectories (t : FileTree) (path : String) : Except FileFault FileTree :=
  if path = "" then .ok t
  else if isAbsolute path then .error .notFound
  else t.createDown [] (names path)

def add (t : FileTree) (path : String) (node : FileNode) : FileTree :=
  let p := names path
  let above := (List.range p.length).filterMap fun n => if n = 0 then none else some (p.take n)
  let t := above.foldl
    (fun t q => if (t.node? q).isSome then t else ⟨Entries.put t.nodes q .directory⟩) t
  ⟨Entries.put t.nodes p node⟩

def ofFiles (files : List (String × FileNode)) : FileTree :=
  files.foldl (fun t f => t.add f.1 f.2) empty

def children (t : FileTree) (here : Place) : List (String × FileNode) :=
  let inside := t.nodes.filterMap fun e =>
    match e.1.getLast? with
    | some name => if e.1.dropLast = here then some (name, e.2) else none
    | none => none
  inside.mergeSort fun a b => a.1 ≤ b.1

def join (path name : String) : String :=
  if path = "" then name else if path.endsWith "/" then path ++ name else path ++ "/" ++ name

end FileTree

end ViewLayers
