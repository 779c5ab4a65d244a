import ViewLayers.FileTree
import ViewLayers.Notice
import ViewLayers.PathPattern

/-!
# Finding files

A pattern is followed part by part through a tree of files. A plain name need only be there;
any other part goes through the names listed in a directory. The paths that one pattern finds
are sorted by their names; a text that is no pattern is one path, whether or not it is there.
-/

namespace ViewLayers

def isHere (path : String) : Bool := path.startsWith "." && (FileTree.names path).isEmpty

def listed (path name : String) : String :=
  if isHere path then name else FileTree.join path name

namespace PathPart

def named? (files : FileTree) (path s : String) : Option String :=
  let next := listed path s
  let isThere := if s = "." || s = ".." then files.isDirectory path else files.exists? next
  if isThere then some next else none

def dots (steps : List Wildcard) : List String :=
  if steps.head? = some (.letter '.') then
    [".", ".."].filter fun s => Wildcard.accepts steps s.toList
  else []

def children (files : FileTree) (path : String) : List String :=
  match files.place path with
  | .ok here => (files.children here).map Prod.fst
  | .error _ => []

def descendants (files : FileTree) (path : String) : List (String × String) :=
  match files.place path with
  | .error _ => []
  | .ok here =>
    files.nodes.filterMap fun e =>
      match e.1.getLast? with
      | some last =>
        if here.isPrefixOf e.1 && here.length < e.1.length then
          some ((e.1.drop here.length).foldl listed path, last)
        else none
      | none => none

end PathPart

namespace PathPattern

def follow (files : FileTree) : List PathPart → String → List String
  | [], path => [path]
  | .name s :: rest, path =>
    match PathPart.named? files path s with
    | some next => follow files rest next
    | none => []
  | .wild steps :: rest, path =>
    let names := (PathPart.children files path).filter fun s => Wildcard.accepts steps s.toList
    let below := if files.isDirectory path then names else []
    let dots := if files.isDirectory path then PathPart.dots steps else []
    below.flatMap (fun s => follow files rest (listed path s))
      ++ dots.flatMap fun s => follow files rest (FileTree.join path s)
  | [.anyDepth], path =>
    ((PathPart.descendants files path).map Prod.fst).filter files.isDirectory
  | .anyDepth :: next :: rest, path =>
    ((PathPart.descendants files path).filter fun e => next.accepts e.2).flatMap fun e =>
      follow files rest e.1

def sortKey (path : String) : List (Nat × String) :=
  let names := (FileTree.names path).map fun s => (if s = ".." then 1 else 2, s)
  if path = "." || path.startsWith "./" then (0, "") :: names else names

def keyPrecedes : List (Nat × String) → List (Nat × String) → Bool
  | [], _ => true
  | _ :: _, [] => false
  | a :: as, b :: bs =>
    if a = b then keyPrecedes as bs else a.1 < b.1 || (a.1 = b.1 && a.2 < b.2)

def search (files : FileTree) (p : PathPattern) : List String :=
  let found := follow files p.parts "."
  let kept := if p.onlyDirectories then found.filter files.isDirectory else found
  kept.mergeSort fun a b => keyPrecedes (sortKey a) (sortKey b)

end PathPattern

def expandPath (files : FileTree) (text : String) : Except Error (List String × List Notice) :=
  if PathPattern.isPattern text then
    (PathPattern.ofText text).map fun p =>
      let found := if text.startsWith "/" then [] else p.search files
      (found, if found.isEmpty then [.patternUnmatched text] else [])
  else .ok ([text], [])

def expandPaths (files : FileTree) : List String → Except Error (List String) × List Notice
  | [] => (.ok [], [])
  | text :: rest =>
    match expandPath files text with
    | .error e => (.error e, [])
    | .ok (found, notices) =>
      let (result, more) := expandPaths files rest
      (result.map (found ++ ·), notices ++ more)

end ViewLayers
