import ViewLayers.Entries
import ViewLayers.Yaml.Fault
import ViewLayers.Yaml.Node
import ViewLayers.Yaml.Token

/-!
# From tokens to nodes

The grammar of documents. A node may bear an anchor and a tag in either order; what is left
out between two indicators is an empty scalar. An anchor's number is how many names have been
used before it.
-/

namespace ViewLayers.Yaml

structure Parse where
  tokens : List Token
  handles : List (List Char × List Char)
  names : Entries (List Char) Nat
  turn : Nat
  anchored : List Anchored

abbrev Parser := StateT Parse (Except Fault)

namespace Parse

def next? : Parser (Option Token) := do return (← get).tokens.head?

def drop (n : Nat) : Parser Unit := modify fun p => { p with tokens := p.tokens.drop n }

def resolveTag (handle suffix : List Char) : Parser (List Char) := do
  if handle.isEmpty then return suffix
  match (← get).handles.find? fun h => h.1 = handle with
  | some (_, start) => return start ++ suffix
  | none => throw .tag

def properties : Parser (Option (List Char) × Option (List Char)) := do
  match (← get).tokens with
  | .anchor a :: .tag h s :: _ | .tag h s :: .anchor a :: _ =>
    drop 2
    return (some a, some (← resolveTag h s))
  | .anchor a :: _ => do drop 1; return (some a, none)
  | .tag h s :: _ => do drop 1; return (none, some (← resolveTag h s))
  | _ => return (none, none)

def register (name : List Char) : Parser (Nat × Nat) := do
  let p ← get
  let number := p.names.length
  set { p with names := Entries.put p.names name number, turn := p.turn + 1 }
  return (number, p.turn)

def keep (at? : Option (Nat × Nat)) (n : Node) : Parser Node := do
  match at? with
  | some (number, turn) =>
    modify fun p => { p with anchored := ⟨number, turn, n⟩ :: p.anchored }
    return n
  | none => return n

def scalarTag (tag : Option (List Char)) : Option (List Char) := tag.filter (· ≠ ['!'])

def endsBlockEntry : Option Token → Bool
  | some .key | some .value | some .blockEnd => true
  | _ => false

mutual

def node : Nat → Bool → Bool → Parser Node
  | 0, _, _ => throw .misplaced
  | fuel + 1, block, indentless => do
    if let some (.alias name) ← next? then
      drop 1
      match Entries.get? (← get).names name with
      | some number => return .alias number
      | none => throw .unknownAnchor
    let (anchor, tag) ← properties
    let at? ← anchor.mapM register
    match ← next? with
    | some .blockEntry =>
      if indentless then keep at? (.sequence tag (← indentlessItems fuel))
      else if anchor.isSome || tag.isSome then keep at? (.scalar tag true [])
      else throw .misplaced
    | some (.scalar plain text) => do drop 1; keep at? (.scalar (scalarTag tag) plain text)
    | some .flowSequenceStart => do drop 1; keep at? (.sequence tag (← flowItems fuel true))
    | some .flowMappingStart => do drop 1; keep at? (.mapping tag (← flowEntries fuel true))
    | some .blockSequenceStart =>
      if block then do drop 1; keep at? (.sequence tag (← blockItems fuel))
      else throw .misplaced
    | some .blockMappingStart =>
      if block then do drop 1; keep at? (.mapping tag (← blockEntries fuel))
      else throw .misplaced
    | _ =>
      if anchor.isSome || tag.isSome then keep at? (.scalar tag true [])
      else throw .misplaced

def blockItems : Nat → Parser (List Node)
  | 0 => throw .misplaced
  | fuel + 1 => do
    match ← next? with
    | some .blockEntry =>
      drop 1
      let item ← match ← next? with
        | some .blockEntry | some .blockEnd => pure Node.missing
        | _ => node fuel true false
      return item :: (← blockItems fuel)
    | some .blockEnd => do drop 1; return []
    | _ => throw .misplaced

/-- Items at the column of the mapping they stand in; whatever else comes ends them. -/
def indentlessItems : Nat → Parser (List Node)
  | 0 => throw .misplaced
  | fuel + 1 => do
    match ← next? with
    | some .blockEntry =>
      drop 1
      let following ← next?
      let item ←
        if endsBlockEntry following || following = some .blockEntry then pure Node.missing
        else node fuel true false
      return item :: (← indentlessItems fuel)
    | _ => return []

def blockEntries : Nat → Parser (List (Node × Node))
  | 0 => throw .misplaced
  | fuel + 1 => do
    match ← next? with
    | some .key =>
      drop 1
      let key ← if endsBlockEntry (← next?) then pure Node.missing else node fuel true true
      let value ← if (← next?) = some .value then do
          drop 1
          if endsBlockEntry (← next?) then pure Node.missing else node fuel true true
        else pure Node.missing
      return (key, value) :: (← blockEntries fuel)
    | some .blockEnd => do drop 1; return []
    | _ => throw .misplaced

def flowItems : Nat → Bool → Parser (List Node)
  | 0, _ => throw .misplaced
  | fuel + 1, first => do
    if (← next?) = some .flowSequenceEnd then do drop 1; return []
    else
      if !first then
        if (← next?) = some .flowEntry then drop 1 else throw .misplaced
      match ← next? with
      | some .flowSequenceEnd => do drop 1; return []
      | some .key =>
        drop 1
        let pair ← flowPair fuel
        return .mapping none [pair] :: (← flowItems fuel false)
      | _ =>
        let item ← node fuel false false
        return item :: (← flowItems fuel false)

/-- One pair as an item. A token in the place of a missing key is lost. -/
def flowPair : Nat → Parser (Node × Node)
  | 0 => throw .misplaced
  | fuel + 1 => do
    let key ← match ← next? with
      | some .value | some .flowEntry | some .flowSequenceEnd => do drop 1; pure Node.missing
      | _ => node fuel false false
    if (← next?) = some .value then do
      drop 1
      match ← next? with
      | some .flowEntry | some .flowSequenceEnd => return (key, .missing)
      | _ => return (key, ← node fuel false false)
    else return (key, .missing)

def flowEntries : Nat → Bool → Parser (List (Node × Node))
  | 0, _ => throw .misplaced
  | fuel + 1, first => do
    if (← next?) = some .flowMappingEnd then do drop 1; return []
    else
      if !first then
        if (← next?) = some .flowEntry then drop 1 else throw .misplaced
      match ← next? with
      | some .flowMappingEnd => do drop 1; return []
      | some .key =>
        drop 1
        let key ← match ← next? with
          | some .value | some .flowEntry | some .flowMappingEnd => pure Node.missing
          | _ => node fuel false false
        let value ← if (← next?) = some .value then do
            drop 1
            match ← next? with
            | some .flowEntry | some .flowMappingEnd => pure Node.missing
            | _ => node fuel false false
          else pure Node.missing
        return (key, value) :: (← flowEntries fuel false)
      | _ =>
        let key ← node fuel false false
        return (key, .missing) :: (← flowEntries fuel false)

end

def defaultHandles : List (List Char × List Char) :=
  [(['!'], ['!']), (['!', '!'], "tag:yaml.org,2002:".toList)]

/-- The directives in front of a document, with the handles they declare. One version at
most, of 1.1 or 1.2, and every handle at most once. -/
def directives : List Token → Bool → List (List Char × List Char) →
    Except Fault (List Token × List (List Char × List Char))
  | .versionDirective major minor :: rest, versioned, handles =>
    if versioned || major ≠ 1 || (minor ≠ 1 && minor ≠ 2) then .error .directive
    else directives rest true handles
  | .tagDirective handle start :: rest, versioned, handles =>
    if handles.any fun h => h.1 = handle then .error .directive
    else directives rest versioned ((handle, start) :: handles)
  | tokens, _, handles => .ok (tokens, handles)

end Parse

namespace Document

def content (explicit : Bool) (fuel : Nat) : Parser Node := do
  match ← Parse.next? with
  | none | some .documentStart | some .documentEnd | some (.versionDirective ..)
  | some (.tagDirective ..) =>
    if explicit then return .missing else throw .misplaced
  | _ => Parse.node fuel true false

def readOne (explicit : Bool) (tokens : List Token) (handles : List (List Char × List Char)) :
    Except Fault Document := do
  let start : Parse := ⟨tokens, handles ++ Parse.defaultHandles, [], 0, []⟩
  let (root, p) ← (content explicit (4 * tokens.length + 8)).run start
  if (p.tokens.dropWhile (· = .documentEnd)).isEmpty then .ok ⟨root, p.anchored⟩
  else .error .manyDocuments

def ofTokens? (tokens : List Token) : Except Fault Document :=
  match tokens with
  | [] => .ok ⟨.missing, []⟩
  | .documentStart :: _ | .versionDirective .. :: _ | .tagDirective .. :: _ => do
    let (tokens, handles) ← Parse.directives tokens false []
    match tokens with
    | .documentStart :: rest => readOne true rest handles
    | _ => .error .misplaced
  | tokens => readOne false tokens []

end Document

end ViewLayers.Yaml
