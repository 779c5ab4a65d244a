/-!
# Errors

What can go wrong is a cause with its circumstances; the wording is in one function for each
kind of cause. Everything after loading falls back to a default and cannot fail, except for
writing a value into a format that has no place for it.
-/

namespace ViewLayers

inductive FileFault where
  | notFound
  | notDirectory
  | isDirectory
  | notText
  | exists
  | emptyPath
  deriving DecidableEq, Repr

def FileFault.message : FileFault → String
  | .notFound | .emptyPath => "No such file or directory (os error 2)"
  | .notDirectory => "Not a directory (os error 20)"
  | .isDirectory => "Is a directory (os error 21)"
  | .exists => "File exists (os error 17)"
  | .notText => "stream did not contain valid UTF-8"

inductive JsonFault where
  | keyNotText
  | keyNotFinite
  deriving DecidableEq, Repr

def JsonFault.message : JsonFault → String
  | .keyNotText => "key must be a string"
  | .keyNotFinite => "float key must be finite (got NaN or +/-inf)"

inductive PatternFault where
  | invalidRange
  | wildcards
  | recursiveWildcards
  deriving DecidableEq, Repr

def PatternFault.message : PatternFault → String
  | .invalidRange => "invalid range pattern"
  | .wildcards => "wildcards are either regular \x60*\x60 or recursive \x60**\x60"
  | .recursiveWildcards => "recursive wildcards must form a single path component"

inductive Error where
  | unreadable (path reason : String)
  | malformed (path reason : String) (hint : Option String)
  | keyCheck (key reason : String)
  | constantsFile (path reason : String)
  | nestedTag
  /-- The key of a record of one entry is tagged or a record of one entry itself. -/
  | loneKey
  | json (fault : JsonFault)
  | pattern (position : Nat) (fault : PatternFault)
  deriving DecidableEq, Repr

namespace Error

def hintText : Option String → String
  | some hint => "\n  hint: " ++ hint
  | none => ""

def patternText (position : Nat) (fault : PatternFault) : String :=
  "Pattern syntax error near position " ++ toString position ++ ": " ++ fault.message

def nestedTagText : String := "serializing nested enums in YAML is not supported yet"

def loneKeyText : String := "expected SCALAR, SEQUENCE-START, MAPPING-START, or ALIAS"

def message : Error → String
  | .unreadable path reason => "Configuration file " ++ path ++ " is unreadable: " ++ reason
  | .malformed path reason hint =>
    "Configuration file " ++ path ++ " is malformed: " ++ reason ++ hintText hint
  | .keyCheck key reason => "Key check failed for '" ++ key ++ "': " ++ reason
  | .constantsFile path reason =>
    "Constants file " ++ path ++ " could not be loaded: " ++ reason
  | .nestedTag => "YAML error: " ++ nestedTagText
  | .loneKey => "YAML error: " ++ loneKeyText
  | .json fault => "JSON error: " ++ fault.message
  | .pattern position fault => "Glob pattern error: " ++ patternText position fault

def cause? : Error → Option String
  | .nestedTag => some nestedTagText
  | .loneKey => some loneKeyText
  | .json fault => some fault.message
  | .pattern position fault => some (patternText position fault)
  | _ => none

end Error

end ViewLayers
