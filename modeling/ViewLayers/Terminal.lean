import ViewLayers.Text.Lowercase

/-!
# Status lines

A status line is a marker and a message. With color the marker is a picture, a failure is red
and the end of the work green; without, the marker is a word in brackets. A choice of `always`
or `never` decides about color, else the environment does, and last whether the output is a
terminal.
-/

namespace ViewLayers

abbrev Environment := String → Option String

inductive Status where
  | scan
  | wrote
  | failed
  | done
  deriving DecidableEq, Repr

namespace Status

def picture : Status → String
  | .scan => "🔍"
  | .wrote => "📝"
  | .failed => "❌"
  | .done => "✅"

def label : Status → String
  | .scan => "[SCAN]"
  | .wrote => "[WROTE]"
  | .failed => "[ERR]"
  | .done => "[OK]"

def colorCode? : Status → Option String
  | .failed => some "31"
  | .done => some "32"
  | .scan | .wrote => none

end Status

def pictureOr (color : Bool) (picture plain : String) : String := if color then picture else plain

def painted (code text : String) : String := "\x1b[" ++ code ++ "m" ++ text ++ "\x1b[0m"

def statusLine (color : Bool) (s : Status) (message : String) : String :=
  let shown := match color, s.colorCode? with
    | true, some code => painted code message
    | _, _ => message
  pictureOr color s.picture s.label ++ " " ++ shown

def environmentColor (env : Environment) (isTerminal : Bool) : Bool :=
  if (env "NO_COLOR").isSome then false
  else if env "CLICOLOR" = some "0" then false
  else if (env "CLICOLOR_FORCE").any fun v => v ≠ "0" ∧ v ≠ "" then true
  else if env "TERM" = some "dumb" then false
  else isTerminal

def usesColor (choice : String) (env : Environment) (isTerminal : Bool) : Bool :=
  let choice := Text.lowercase choice
  if choice = "always" then true
  else if choice = "never" then false
  else environmentColor env isTerminal

/-- Whether the log is in color: as `RUST_LOG_STYLE` says, else as the environment asks, where
an empty `NO_COLOR` does not count, else on a terminal that knows colors. -/
def logColor (env : Environment) (isTerminal : Bool) : Bool :=
  if env "RUST_LOG_STYLE" = some "always" then true
  else if env "RUST_LOG_STYLE" = some "never" then false
  else if (env "NO_COLOR").any (· ≠ "") then false
  else if (env "CLICOLOR_FORCE").any (· ≠ "0") then true
  else if env "CLICOLOR" = some "0" then false
  else isTerminal
    && ((env "TERM").any (· ≠ "dumb") || (env "CLICOLOR").isSome || (env "CI").isSome)

end ViewLayers
