import ViewLayers.Calendar

/-!
# Commands

What a command line asks for: a command with its options, and the options that every command
has.
-/

namespace ViewLayers

inductive OutputFormat where
  | script
  | json
  deriving DecidableEq, Repr

inductive Shell where
  | bash
  | elvish
  | fish
  | powershell
  | zsh
  deriving DecidableEq, Repr

structure MergeOptions where
  constants : Option String
  date : Option Moment
  deriving DecidableEq, Repr

structure CompileOptions where
  files : List String
  output : Option String
  format : OutputFormat
  merge : MergeOptions
  deriving DecidableEq, Repr

structure MergedOptions where
  files : List String
  merge : MergeOptions
  deriving DecidableEq, Repr

structure BuildOptions where
  appConfig : Option String
  modulesDir : String
  outDir : String
  merge : MergeOptions
  deriving DecidableEq, Repr

inductive Command where
  | compile (options : CompileOptions)
  | merged (options : MergedOptions)
  | build (options : BuildOptions)
  | completions (shell : Shell)
  deriving DecidableEq, Repr

structure Invocation where
  color : String
  logLevel : String
  command : Command
  deriving DecidableEq, Repr

inductive Stop where
  | help
  | version
  | misuse
  deriving DecidableEq, Repr

end ViewLayers
