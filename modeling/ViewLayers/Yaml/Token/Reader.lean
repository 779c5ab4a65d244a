import ViewLayers.Yaml.Token.Names
import ViewLayers.Yaml.Token.Scalars

/-!
# From characters to tokens

Whether a scalar is a key shows only at the colon after it. So a place is left open in front
of everything that may turn out to be a key, and closed when the colon comes or can no longer
come: a key and its colon stand on one line, at most 1024 characters apart. Collections
without brackets begin and end where the indentation changes.
-/

namespace ViewLayers.Yaml

inductive Opening where
  | nothing
  | key
  | firstKey
  deriving DecidableEq

inductive Item where
  | token (t : Token)
  | place (n : Nat)

structure Candidate where
  place : Nat
  required : Bool
  index : Nat
  line : Nat
  column : Nat

structure Scan where
  cursor : Cursor
  items : List Item
  openings : Array Opening
  indents : List Nat
  /-- The possible key of the current level and of every flow collection around it. -/
  candidate : Option Candidate
  outer : List (Option Candidate)
  keyAllowed : Bool

namespace Scan

def start (cs : List Char) : Scan :=
  { cursor := Cursor.start cs, items := [], openings := #[], indents := [],
    candidate := none, outer := [], keyAllowed := true }

def inFlow (s : Scan) : Bool := !s.outer.isEmpty

def indent? (s : Scan) : Option Nat := s.indents.head?

def innerColumn (s : Scan) : Nat := (s.indent?.map (· + 1)).getD 0

def push (s : Scan) (t : Token) : Scan := { s with items := .token t :: s.items }

def pushAt (s : Scan) (t : Token) (width : Nat) : Scan :=
  { s with items := .token t :: s.items, cursor := s.cursor.skip width }

def allow (s : Scan) (b : Bool) : Scan := { s with keyAllowed := b }

def dropCandidate (s : Scan) : Except Fault Scan :=
  if s.candidate.any Candidate.required then .error .missingColon
  else .ok { s with candidate := none }

def saveCandidate (s : Scan) : Except Fault Scan :=
  if s.keyAllowed then do
    let s ← s.dropCandidate
    let c := s.cursor
    let required := !s.inFlow && s.indent? = some c.column
    .ok { s with
      items := .place s.openings.size :: s.items
      openings := s.openings.push .nothing
      candidate := some ⟨s.openings.size, required, c.index, c.line, c.column⟩ }
  else .ok s

def isStale (c : Cursor) (k : Candidate) : Bool := k.line < c.line || k.index + 1024 < c.index

def dropStale (s : Scan) : Except Fault Scan :=
  let all := s.candidate :: s.outer
  if all.any fun k => k.any fun k => isStale s.cursor k && k.required then .error .missingColon
  else
    let fresh (k : Option Candidate) := k.filter fun k => !isStale s.cursor k
    .ok { s with candidate := fresh s.candidate, outer := s.outer.map fresh }

def indentTo (s : Scan) (column : Nat) (t : Token) : Scan :=
  if !s.inFlow && s.indent?.all (· < column) then
    { s with indents := column :: s.indents, items := .token t :: s.items }
  else s

def closeBlocks (p : Nat → Bool) (s : Scan) : Scan :=
  if s.inFlow then s
  else
    let closed := s.indents.takeWhile p
    { s with
      indents := s.indents.drop closed.length
      items := List.replicate closed.length (.token .blockEnd) ++ s.items }

/-- Passes blanks, comments and breaks. A new line outside of flow collections may start with
a key, and there a tab is no blank. -/
def skipToToken : Nat → Scan → Scan
  | 0, s => s
  | fuel + 1, s =>
    let c := s.cursor
    let c := if c.column = 0 && c.isHere '\ufeff' then c.skip 1 else c
    let tabs := s.inFlow || !s.keyAllowed
    let c := c.skipWhile fun ch => ch = ' ' || (tabs && ch = '\t')
    let c := if c.isHere '#' then c.skipWhile fun ch => !isBreak ch else c
    if c.atBreak then
      skipToToken fuel
        { s with cursor := c.skipBreak, keyAllowed := s.keyAllowed || !s.inFlow }
    else { s with cursor := c }

def readDocumentMark (s : Scan) (t : Token) : Except Fault Scan := do
  let s ← (s.closeBlocks fun _ => true).dropCandidate
  .ok ((s.allow false).pushAt t 3)

def readDirectiveLine (s : Scan) : Except Fault Scan := do
  let s ← (s.closeBlocks fun _ => true).dropCandidate
  let (t, c) ← readDirective s.cursor
  .ok { (s.allow false).push t with cursor := c }

def openFlow (s : Scan) (t : Token) : Except Fault Scan := do
  let s ← s.saveCandidate
  .ok (({ s with outer := s.candidate :: s.outer, candidate := none }.allow true).pushAt t 1)

def closeFlow (s : Scan) (t : Token) : Except Fault Scan := do
  let s ← s.dropCandidate
  let s := match s.outer with
    | k :: outer => { s with candidate := k, outer := outer }
    | [] => s
  .ok ((s.allow false).pushAt t 1)

def readFlowEntry (s : Scan) : Except Fault Scan := do
  let s ← s.dropCandidate
  .ok ((s.allow true).pushAt .flowEntry 1)

def readBlockEntry (s : Scan) : Except Fault Scan :=
  if !s.inFlow && !s.keyAllowed then .error .misplacedIndicator
  else do
    let s ← (s.indentTo s.cursor.column .blockSequenceStart).dropCandidate
    .ok ((s.allow true).pushAt .blockEntry 1)

def readKeyMark (s : Scan) : Except Fault Scan :=
  if !s.inFlow && !s.keyAllowed then .error .misplacedIndicator
  else do
    let s ← (s.indentTo s.cursor.column .blockMappingStart).dropCandidate
    .ok ((s.allow !s.inFlow).pushAt .key 1)

/-- A colon after a possible key closes its place, and opens a mapping there if the key lies
right of the current column. Without one it follows a key with a mark of its own. -/
def readValueMark (s : Scan) : Except Fault Scan :=
  match s.candidate with
  | some k =>
    let opens := !s.inFlow && s.indent?.all (· < k.column)
    let s := { s with
      openings := s.openings.setIfInBounds k.place (if opens then .firstKey else .key)
      indents := if opens then k.column :: s.indents else s.indents
      candidate := none }
    .ok ((s.allow false).pushAt .value 1)
  | none =>
    if !s.inFlow && !s.keyAllowed then .error .misplacedIndicator
    else
      let s := s.indentTo s.cursor.column .blockMappingStart
      .ok ((s.allow !s.inFlow).pushAt .value 1)

def readName (s : Scan) (read : Cursor → Except Fault (Token × Cursor)) : Except Fault Scan := do
  let s ← s.saveCandidate
  let (t, c) ← read s.cursor
  .ok { (s.allow false).push t with cursor := c }

def readBlockScalar (s : Scan) (literal : Bool) : Except Fault Scan := do
  let s ← s.dropCandidate
  let (text, c) ← readBlock literal s.indent? s.cursor
  .ok { (s.allow true).push (.scalar false text) with cursor := c }

def readQuotedScalar (s : Scan) (single : Bool) : Except Fault Scan := do
  let s ← s.saveCandidate
  let (text, c) ← readQuoted single s.cursor
  .ok { (s.allow false).push (.scalar false text) with cursor := c }

/-- A break at the end of a plain scalar lets a key start after it. -/
def readPlainScalar (s : Scan) : Except Fault Scan := do
  let s ← s.saveCandidate
  let (text, broken, c) ← readPlain s.inFlow s.innerColumn s.cursor
  .ok { (s.allow broken).push (.scalar true text) with cursor := c }

def indicators : List Char :=
  ['-', '?', ':', ',', '[', ']', '{', '}', '#', '&', '*', '!', '|', '>', '\'', '"', '%', '@',
    '\x60']

def startsPlain (s : Scan) (ch : Char) : Bool :=
  !(indicators.contains ch || isSpaceOrTab ch || isBreak ch)
    || (ch = '-' && !(s.cursor.rest[1]?.any isSpaceOrTab))
    || (!s.inFlow && (ch = '?' || ch = ':') && !s.cursor.isGapAt 1)

def readToken (s : Scan) (ch : Char) : Except Fault Scan :=
  let c := s.cursor
  if c.column = 0 && ch = '%' then s.readDirectiveLine
  else if c.marksDocument '-' then s.readDocumentMark .documentStart
  else if c.marksDocument '.' then s.readDocumentMark .documentEnd
  else if ch = '[' then s.openFlow .flowSequenceStart
  else if ch = '{' then s.openFlow .flowMappingStart
  else if ch = ']' then s.closeFlow .flowSequenceEnd
  else if ch = '}' then s.closeFlow .flowMappingEnd
  else if ch = ',' then s.readFlowEntry
  else if ch = '-' && c.isGapAt 1 then s.readBlockEntry
  else if ch = '?' && (s.inFlow || c.isGapAt 1) then s.readKeyMark
  else if ch = ':' && (s.inFlow || c.isGapAt 1) then s.readValueMark
  else if ch = '*' then
    s.readName fun c => (readAnchorName c).map fun (n, after) => (.alias n, after)
  else if ch = '&' then
    s.readName fun c => (readAnchorName c).map fun (n, after) => (.anchor n, after)
  else if ch = '!' then s.readName (readTag s.inFlow)
  else if ch = '|' && !s.inFlow then s.readBlockScalar true
  else if ch = '>' && !s.inFlow then s.readBlockScalar false
  else if ch = '\'' then s.readQuotedScalar true
  else if ch = '"' then s.readQuotedScalar false
  else if s.startsPlain ch then s.readPlainScalar
  else .error .unexpectedCharacter

def finish (s : Scan) : Except Fault Scan := (s.closeBlocks fun _ => true).dropCandidate

/-- Every token takes at least one character, so the length of the text bounds the steps. -/
def readAll : Nat → Scan → Except Fault Scan
  | 0, _ => .error .unexpectedEnd
  | fuel + 1, s => do
    let s ← (s.skipToToken (s.cursor.rest.length + 1)).dropStale
    let column := s.cursor.column
    match s.cursor.rest with
    | [] => (s.closeBlocks fun n => column < n).finish
    | ch :: _ =>
      let s ← (s.closeBlocks fun n => column < n).readToken ch
      readAll fuel s

def tokens (s : Scan) : List Token :=
  s.items.reverse.flatMap fun
    | .token t => [t]
    | .place n =>
      match s.openings[n]? with
      | some .key => [.key]
      | some .firstKey => [.blockMappingStart, .key]
      | _ => []

end Scan

def Token.ofText? (cs : List Char) : Except Fault (List Token) :=
  if cs.all isAllowed then
    (Scan.readAll (cs.length + 1) (Scan.start cs)).map Scan.tokens
  else .error .character

end ViewLayers.Yaml
