import ViewLayers.Calendar.Reader
import ViewLayers.CommandLine.Command
import ViewLayers.Entries
import ViewLayers.Terminal

/-!
# Arguments

Arguments are read from left to right, and the first that is wrong or asks for help decides.
An option is given once, as `--name value`, `--name=value`, `-n value` or `-nvalue`; its value
as an argument of its own does not begin with a hyphen, a lone hyphen apart. After `--` every
argument is a word. The options for color and log level may stand before the command or after
it, where they count more.
-/

namespace ViewLayers

structure OptionRule where
  name : String
  letter : Option Char
  allows : String → Bool

inductive WordRule where
  | none
  | many
  | oneOf (words : List String)

structure ArgumentRules where
  options : List OptionRule
  words : WordRule
  commands : List String
  hasVersion : Bool

structure Arguments where
  values : Entries String String
  words : List String

namespace Arguments

def empty : Arguments := ⟨[], []⟩

def value? (a : Arguments) (name : String) : Option String := Entries.get? a.values name

inductive Form where
  | long (name : String) (value : Option String)
  | short (letter : Char) (value : Option String)
  | escape
  | word

def shortValue (cs : List Char) : Option String :=
  match cs with
  | [] => none
  | '=' :: rest => some (String.ofList rest)
  | rest => some (String.ofList rest)

def form (argument : String) : Form :=
  match argument.toList with
  | ['-', '-'] => .escape
  | '-' :: '-' :: cs =>
    match cs.span (· ≠ '=') with
    | (name, []) => .long (String.ofList name) none
    | (name, _ :: value) => .long (String.ofList name) (some (String.ofList value))
  | '-' :: letter :: cs => .short letter (shortValue cs)
  | _ => .word

def isWord (argument : String) : Bool :=
  match form argument with
  | .word => true
  | _ => false

def setValue (rule : OptionRule) (value : String) (a : Arguments) : Except Stop Arguments :=
  if (a.value? rule.name).isSome || !rule.allows value then .error .misuse
  else .ok ⟨Entries.put a.values rule.name value, a.words⟩

def addWord (rule : WordRule) (word : String) (a : Arguments) : Except Stop Arguments :=
  match rule with
  | .none => .error .misuse
  | .many => .ok ⟨a.values, a.words ++ [word]⟩
  | .oneOf words =>
    if a.words.isEmpty && words.contains word then .ok ⟨a.values, [word]⟩ else .error .misuse

def addWords (rule : WordRule) (words : List String) (a : Arguments) : Except Stop Arguments :=
  words.foldlM (fun a word => addWord rule word a) a

def stopFor (rules : ArgumentRules) (form : Form) : Stop :=
  match form with
  | .long "help" none | .short 'h' _ => .help
  | .long "version" none | .short 'V' _ => if rules.hasVersion then .version else .misuse
  | _ => .misuse

def rule? (rules : ArgumentRules) : Form → Option (OptionRule × Option String)
  | .long name value => (rules.options.find? (·.name = name)).map fun r => (r, value)
  | .short letter value =>
    (rules.options.find? (·.letter = some letter)).map fun r => (r, value)
  | _ => none

/-- Reads arguments up to a command, which is returned with all that follows it. The option
that waits for its value takes the next argument. -/
def read (rules : ArgumentRules) (waiting : Option OptionRule) (a : Arguments) :
    List String → Except Stop (Arguments × List String)
  | [] => if waiting.isSome then .error .misuse else .ok (a, [])
  | argument :: rest =>
    match waiting with
    | some rule =>
      if isWord argument then do read rules none (← setValue rule argument a) rest
      else .error .misuse
    | none =>
      if rules.commands.contains argument then .ok (a, argument :: rest)
      else
        match form argument, rule? rules (form argument) with
        | .escape, _ => do return (← addWords rules.words rest a, [])
        | .word, _ => do read rules none (← addWord rules.words argument a) rest
        | _, some (rule, some value) => do read rules none (← setValue rule value a) rest
        | _, some (rule, none) => read rules (some rule) a rest
        | form, none => .error (stopFor rules form)

end Arguments

def isPath (s : String) : Bool := s ≠ ""

def commonOptions : List OptionRule :=
  [⟨"color", none, fun _ => true⟩, ⟨"log-level", none, fun _ => true⟩]

def mergeOptions : List OptionRule :=
  [⟨"constants", none, isPath⟩, ⟨"date", none, fun s => (Moment.ofText? s).isSome⟩]

def OutputFormat.ofName? (s : String) : Option OutputFormat :=
  if s = "script" then some .script else if s = "json" then some .json else none

def Shell.names : List (String × Shell) :=
  [("bash", .bash), ("elvish", .elvish), ("fish", .fish), ("powershell", .powershell),
    ("zsh", .zsh)]

def commandNames : List String := ["compile", "merged", "build", "completions", "help"]

def rootRules : ArgumentRules := ⟨commonOptions, .none, commandNames, true⟩

def compileRules : ArgumentRules where
  options := commonOptions ++ mergeOptions ++
    [⟨"output", some 'o', isPath⟩,
      ⟨"format", none, fun s => (OutputFormat.ofName? s).isSome⟩]
  words := .many
  commands := []
  hasVersion := false

def mergedRules : ArgumentRules := ⟨commonOptions ++ mergeOptions, .many, [], false⟩

def buildRules : ArgumentRules where
  options := commonOptions ++ mergeOptions ++
    [⟨"app-config", none, isPath⟩, ⟨"modules-dir", none, isPath⟩, ⟨"out-dir", none, isPath⟩]
  words := .none
  commands := []
  hasVersion := false

def completionsRules : ArgumentRules :=
  ⟨commonOptions, .oneOf (Shell.names.map Prod.fst), [], false⟩

def readMergeOptions (env : Environment) (a : Arguments) : Except Stop MergeOptions :=
  let constants := (a.value? "constants").or (env "VIEW_CONFIG_CONSTANTS")
  if constants = some "" then .error .misuse
  else .ok ⟨constants, (a.value? "date").bind Moment.ofText?⟩

def readCompile (env : Environment) (a : Arguments) : Except Stop Command := do
  let merge ← readMergeOptions env a
  if a.words.isEmpty then throw .misuse
  let format := ((a.value? "format").bind OutputFormat.ofName?).getD .script
  return .compile ⟨a.words, a.value? "output", format, merge⟩

def readMerged (env : Environment) (a : Arguments) : Except Stop Command := do
  let merge ← readMergeOptions env a
  if a.words.isEmpty then throw .misuse
  return .merged ⟨a.words, merge⟩

def readBuild (env : Environment) (a : Arguments) : Except Stop Command := do
  let merge ← readMergeOptions env a
  match a.value? "out-dir" with
  | none => throw .misuse
  | some outDir =>
    return .build ⟨a.value? "app-config", (a.value? "modules-dir").getD "modules", outDir, merge⟩

def readCompletions (a : Arguments) : Except Stop Command :=
  match a.words.head?.bind fun s => Entries.get? Shell.names s with
  | some shell => .ok (.completions shell)
  | none => .error .misuse

def readHelp (words : List String) : Stop :=
  match words with
  | [] => .help
  | [name] => if commandNames.contains name then .help else .misuse
  | _ => .misuse

def commandRules (env : Environment) (name : String) :
    ArgumentRules × (Arguments → Except Stop Command) :=
  match name with
  | "compile" => (compileRules, readCompile env)
  | "merged" => (mergedRules, readMerged env)
  | "build" => (buildRules, readBuild env)
  | _ => (completionsRules, readCompletions)

def Invocation.ofArguments (env : Environment) (arguments : List String) :
    Except Stop Invocation := do
  let (outer, rest) ← Arguments.read rootRules none .empty arguments
  match rest with
  | [] => throw .misuse
  | "help" :: words => throw (readHelp words)
  | name :: rest =>
    let (rules, finish) := commandRules env name
    let (inner, _) ← Arguments.read rules none .empty rest
    let command ← finish inner
    let common (option : String) (default : String) :=
      ((inner.value? option).or (outer.value? option)).getD default
    return ⟨common "color" "auto", common "log-level" "warn", command⟩

end ViewLayers
