import ViewLayers.Notice
import ViewLayers.Terminal
import ViewLayers.Text.CharRange

/-!
# Filters of notices

A filter is a list of directives between commas, `warn` for all parts of the program or
`view_config::merge=debug` for one. Of the directives for a notice the one with the longest
name counts. A text after a slash must occur in a notice.
-/

namespace ViewLayers

structure Directive where
  name : Option String
  rank : Nat
  deriving DecidableEq, Repr

structure NoticeFilter where
  directives : List Directive
  text : String

namespace NoticeFilter

def levels : List (String × Nat) :=
  [("off", 0), ("error", 1), ("warn", 2), ("info", 3), ("debug", 4), ("trace", 5)]

def level? (s : String) : Option Nat :=
  (levels.find? fun l => l.1 = s.map Char.toLower).map Prod.snd

def trim (s : String) : String :=
  let cs := s.toList.dropWhile Text.isBlank
  String.ofList (cs.reverse.dropWhile Text.isBlank).reverse

def readDirective (s : String) : Except String Directive :=
  match s.splitOn "=" with
  | [name] =>
    match level? name with
    | some rank => .ok ⟨none, rank⟩
    | none => .ok ⟨some name, 5⟩
  | [name, level] =>
    let level := trim level
    if level = "" then .ok ⟨some name, 5⟩
    else
      match level? level with
      | some rank => .ok ⟨some name, rank⟩
      | none => .error level
  | _ => .error s

def put (d : Directive) : List Directive → List Directive
  | [] => [d]
  | e :: rest => if e.name = d.name then d :: rest else e :: put d rest

def warning (what : String) : String :=
  "warning: invalid logging spec '" ++ what ++ "', ignoring it"

def readDirectives (done : List Directive) : List String → List Directive × List String
  | [] => (done, [])
  | s :: rest =>
    match readDirective s with
    | .ok d => readDirectives (put d done) rest
    | .error what =>
      let (all, warnings) := readDirectives done rest
      (all, warning what :: warnings)

def ofText (s : String) : NoticeFilter × List String :=
  let (specs, text, warnings) := match s.splitOn "/" with
    | [specs] => (specs, "", [])
    | [specs, text] => (specs, text, [])
    | _ =>
      ("", "", ["warning: invalid logging spec '" ++ s ++ "' (too many '/'s), ignoring it"])
  let parts := ((specs.splitOn ",").map trim).filter (· ≠ "")
  let (directives, more) := readDirectives [] parts
  (⟨if directives.isEmpty then [⟨none, 1⟩] else directives, text⟩, warnings ++ more)

def nameSize (d : Directive) : Nat := (d.name.getD "").utf8ByteSize

def directiveFor? (f : NoticeFilter) (origin : String) : Option Directive :=
  let sorted := f.directives.mergeSort fun a b => nameSize a ≤ nameSize b
  sorted.reverse.find? fun d => d.name.all fun name => origin.startsWith name

def occursIn (part text : String) : Bool := part = "" || 1 < (text.splitOn part).length

def shows (f : NoticeFilter) (n : Notice) : Bool :=
  ((f.directiveFor? n.origin).any fun d => n.severity.rank ≤ d.rank) && occursIn f.text n.text

end NoticeFilter

namespace Notice

def paddedLabel (s : Severity) : String :=
  s.label ++ String.ofList (List.replicate (5 - s.label.length) ' ')

def colorCode : Severity → String
  | .error => "31"
  | .warn => "33"
  | .info => "32"
  | .debug => "34"
  | .trace => "36"

def bracket (color : Bool) (s : String) : String := if color then painted "90" s else s

def line (color : Bool) (n : Notice) : String :=
  let label := paddedLabel n.severity
  bracket color "[" ++ (if color then painted (colorCode n.severity) label else label)
    ++ " " ++ n.origin ++ bracket color "]" ++ " " ++ "\n    ".intercalate (n.text.splitOn "\n")

end Notice

end ViewLayers
