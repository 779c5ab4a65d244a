import ViewLayers.CommandLine.Build
import ViewLayers.CommandLine.Help

/-!
# Running the program

A run takes the arguments, the environment, the time and the files, and gives all that it
leaves behind. Which notices are shown is said by `RUST_LOG`, or else by the option for the
log level; `RUST_LOG_STYLE` and the environment say whether the log is in color.
-/

namespace ViewLayers

structure Surroundings where
  environment : Environment
  now : Moment
  files : FileTree
  isTerminal : Bool
  logsToTerminal : Bool

structure Finished where
  status : ExitStatus
  output : String
  messages : List String
  files : FileTree

def Command.run (c : Command) (color : Bool) (now : Moment) (files : FileTree) : Outcome :=
  match c with
  | .compile options => options.run now files
  | .merged options => options.run files
  | .build options => options.run color now files
  | .completions shell => .succeeded files shell.completions []

namespace Invocation

def filter (i : Invocation) (env : Environment) : NoticeFilter × List String :=
  NoticeFilter.ofText ((env "RUST_LOG").getD i.logLevel)

def run (i : Invocation) (s : Surroundings) : Finished :=
  let (filter, warnings) := i.filter s.environment
  let color := usesColor i.color s.environment s.isTerminal
  let outcome := i.command.run color s.now s.files
  let messages := Outcome.shown filter (logColor s.environment s.logsToTerminal) outcome.messages
  ⟨outcome.status, outcome.output, warnings ++ messages, outcome.files⟩

end Invocation

def Stop.finish (s : Stop) (files : FileTree) : Finished :=
  match s with
  | .help => ⟨.success, helpText, [], files⟩
  | .version => ⟨.success, versionText, [], files⟩
  | .misuse => ⟨.misuse, "", [misuseText], files⟩

def runProgram (s : Surroundings) (arguments : List String) : Finished :=
  match Invocation.ofArguments s.environment arguments with
  | .ok i => i.run s
  | .error stop => stop.finish s.files

end ViewLayers
