/-!
# Faults of YAML texts
-/

namespace ViewLayers.Yaml

inductive Fault where
  | character
  | unexpectedCharacter
  | unexpectedEnd
  | indentation
  | misplacedIndicator
  | missingColon
  | directive
  | anchor
  | tag
  | escape
  | blockHeader
  | misplaced
  | unknownAnchor
  | depth
  | repetition
  | scalar
  | duplicateKey
  | manyDocuments
  deriving DecidableEq, Repr

def Fault.message : Fault → String
  | .character => "the text holds a control character"
  | .unexpectedCharacter => "a character starts no token"
  | .unexpectedEnd => "the text ends inside a quoted scalar"
  | .indentation => "a tab stands where indentation is expected"
  | .misplacedIndicator => "an indicator is not allowed in this place"
  | .missingColon => "a key is not followed by a colon"
  | .directive => "a directive is not well formed"
  | .anchor => "an anchor is not well formed"
  | .tag => "a tag is not well formed"
  | .escape => "an escape sequence is not well formed"
  | .blockHeader => "the header of a block scalar is not well formed"
  | .misplaced => "a token is not expected in this place"
  | .unknownAnchor => "an alias names no anchor"
  | .depth => "collections are nested too deeply"
  | .repetition => "aliases repeat too much"
  | .scalar => "a scalar does not fit its tag or is out of range"
  | .duplicateKey => "a key occurs twice in a mapping"
  | .manyDocuments => "the text holds more than one document"

end ViewLayers.Yaml
