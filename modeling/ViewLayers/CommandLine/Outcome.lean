import ViewLayers.Error
import ViewLayers.FileTree
import ViewLayers.Notice.Filter

/-!
# Outcomes

What a run of the program leaves behind: an exit status, the text on the output, messages in
their order, and the files.
-/

namespace ViewLayers

inductive ExitStatus where
  | success
  | failure
  | misuse
  | aborted
  deriving DecidableEq, Repr

def ExitStatus.code : ExitStatus → Nat
  | .success => 0
  | .failure => 1
  | .misuse => 2
  | .aborted => 101

structure Failure where
  text : String
  cause : Option String
  deriving DecidableEq, Repr

namespace Failure

def ofError (e : Error) : Failure := ⟨e.message, e.cause?⟩

def ofFile (text : String) (f : FileFault) : Failure := ⟨text, some f.message⟩

def indented (text : String) : String := "    " ++ "\n    ".intercalate (text.splitOn "\n")

def report (f : Failure) : String :=
  "Error: " ++ f.text ++
    match f.cause with
    | none => ""
    | some cause => "\n\nCaused by:\n" ++ indented cause

def inline (f : Failure) : String :=
  match f.cause with
  | none => f.text
  | some cause => f.text ++ ": " ++ cause

end Failure

inductive Message where
  | notice (n : Notice)
  | plain (text : String)
  deriving DecidableEq, Repr

structure Outcome where
  status : ExitStatus
  output : String
  messages : List Message
  files : FileTree

namespace Outcome

def succeeded (files : FileTree) (output : String) (notices : List Notice) : Outcome :=
  ⟨.success, output, notices.map .notice, files⟩

def failed (files : FileTree) (f : Failure) (notices : List Notice) : Outcome :=
  ⟨.failure, "", notices.map .notice ++ [.plain f.report], files⟩

def overflowed (files : FileTree) (notices : List Notice) : Outcome :=
  ⟨.aborted, "", notices.map .notice ++ [.plain "attempt to add with overflow"], files⟩

def shown (filter : NoticeFilter) (color : Bool) (messages : List Message) : List String :=
  messages.filterMap fun m =>
    match m with
    | .notice n => if filter.shows n then some (n.line color) else none
    | .plain text => some text

end Outcome

end ViewLayers
