import ViewLayers.CommandLine.Arguments

/-!
# Help

The texts that explain the program and that teach shells its commands.
-/

namespace ViewLayers

def programName : String := "view-config"

def versionText : String := programName ++ " 0.4.0\n"

def helpText : String :=
  "\n".intercalate
    ["Compile layered view.yml files into view initializers", "",
      "Usage: view-config [OPTIONS] <COMMAND>", "", "Commands:",
      "  compile      Compile configuration files into one view initializer",
      "  merged       Print the merged configuration tree as YAML",
      "  build        Compile every module's config/view.yml into an output directory",
      "  completions  Generate shell completion scripts",
      "  help         Print this message", "", "Options:",
      "      --color <WHEN>       Colorize output (always, never, auto)",
      "      --log-level <LEVEL>  Set log level (error, warn, info, debug, trace)",
      "  -h, --help               Print help",
      "  -V, --version            Print version", ""]

def misuseText : String := "error: the arguments cannot be understood; try '--help'"

def commandList : String := " ".intercalate commandNames

def Shell.completions : Shell → String
  | .bash => "complete -W '" ++ commandList ++ "' " ++ programName ++ "\n"
  | .zsh => "#compdef " ++ programName ++ "\n_arguments '1: :(" ++ commandList ++ ")'\n"
  | .fish => "complete -c " ++ programName ++ " -f -a '" ++ commandList ++ "'\n"
  | .elvish =>
    "set edit:completion:arg-completer[" ++ programName ++ "] = \x7b|@words| put "
      ++ commandList ++ " \x7d\n"
  | .powershell =>
    "Register-ArgumentCompleter -Native -CommandName '" ++ programName
      ++ "' -ScriptBlock \x7b -split '" ++ commandList ++ "' \x7d\n"

end ViewLayers
