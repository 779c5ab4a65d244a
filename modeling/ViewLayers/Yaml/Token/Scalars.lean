import ViewLayers.Yaml.Cursor
import ViewLayers.Number.Decimal

/-!
# Reading scalars

A scalar may go over several lines. Blanks at line breaks fall away and a single break reads
as a blank; of several breaks the first falls away. Block scalars instead keep their lines.
-/

namespace ViewLayers.Yaml

structure Gap where
  blanks : List Char
  first : List Char
  others : List Char
  broken : Bool

namespace Gap

def none : Gap := ⟨[], [], [], false⟩

def joined : Gap := ⟨[], [], [], true⟩

def text (g : Gap) : List Char :=
  if !g.broken then g.blanks
  else if g.first.head? = some '\n' then
    if g.others.isEmpty then [' '] else g.others
  else g.first ++ g.others

def addBreak (g : Gap) (b : List Char) : Gap :=
  if g.broken then { g with others := g.others ++ b }
  else { g with blanks := [], first := b, broken := true }

def addBlank (g : Gap) (c : Char) : Gap :=
  if g.broken then g else { g with blanks := g.blanks ++ [c] }

end Gap

/-- Reads blanks and breaks. In a plain scalar no tab may stand before the given column of a
new line. -/
def readGap (column : Option Nat) : Nat → Gap → Cursor → Except Fault (Gap × Cursor)
  | 0, g, c => .ok (g, c)
  | fuel + 1, g, c =>
    match c.rest with
    | [] => .ok (g, c)
    | ch :: _ =>
      if isSpaceOrTab ch then
        if g.broken && ch = '\t' && column.any (c.column < ·) then .error .indentation
        else readGap column fuel (g.addBlank ch) (c.skip 1)
      else if isBreak ch then
        let (b, c) := c.readBreak
        readGap column fuel (g.addBreak b) c
      else .ok (g, c)

/-- Whether a plain scalar ends here: at a colon before a blank and, inside a flow
collection, at its indicators. -/
def endsPlain (inFlow : Bool) (c : Cursor) : Bool :=
  (c.isHere ':' && c.isGapAt 1)
    || (inFlow && c.sees fun ch => [',', '[', ']', '{', '}'].contains ch)

def colonClash (inFlow : Bool) (c : Cursor) : Bool :=
  inFlow && c.isHere ':' && c.rest[1]?.any fun ch => [',', '?', '[', ']', '{', '}'].contains ch

def readPlainWord (inFlow : Bool) : Nat → Cursor → Except Fault (List Char × Cursor)
  | 0, c => .ok ([], c)
  | fuel + 1, c =>
    match c.rest with
    | [] => .ok ([], c)
    | ch :: _ =>
      if c.isGapAt 0 then .ok ([], c)
      else if colonClash inFlow c then .error .unexpectedCharacter
      else if endsPlain inFlow c then .ok ([], c)
      else (readPlainWord inFlow fuel (c.skip 1)).map fun (word, after) => (ch :: word, after)

def readPlainFrom (inFlow : Bool) (column : Nat) :
    Nat → Gap → Cursor → Except Fault (List Char × Bool × Cursor)
  | 0, g, c => .ok ([], g.broken, c)
  | fuel + 1, g, c =>
    if c.atDocumentMark || c.isHere '#' then .ok ([], g.broken, c)
    else do
      let (word, c) ← readPlainWord inFlow c.rest.length c
      let before := if word.isEmpty then [] else g.text ++ word
      if !(c.atBlank || c.atBreak) then
        .ok (before, word.isEmpty && g.broken, c)
      else
        let start := if word.isEmpty then g else Gap.none
        let (next, c) ← readGap (some column) c.rest.length start c
        if !inFlow && c.column < column then .ok (before, next.broken, c)
        else
          let (more, broken, c) ← readPlainFrom inFlow column fuel next c
          .ok (before ++ more, broken, c)

def readPlain (inFlow : Bool) (column : Nat) (c : Cursor) :
    Except Fault (List Char × Bool × Cursor) :=
  readPlainFrom inFlow column (c.rest.length + 1) Gap.none c

def escapeLetter? : Char → Option Char
  | '0' => some '\x00'
  | 'a' => some '\x07'
  | 'b' => some '\x08'
  | 't' | '\t' => some '\t'
  | 'n' => some '\n'
  | 'v' => some '\x0b'
  | 'f' => some '\x0c'
  | 'r' => some '\r'
  | 'e' => some '\x1b'
  | ' ' => some ' '
  | '"' => some '"'
  | '/' => some '/'
  | '\\' => some '\\'
  | 'N' => some '\u0085'
  | '_' => some '\u00a0'
  | 'L' => some '\u2028'
  | 'P' => some '\u2029'
  | _ => none

def escapeWidth? : Char → Option Nat
  | 'x' => some 2
  | 'u' => some 4
  | 'U' => some 8
  | _ => none

def readEscape? : List Char → Option (Char × Nat)
  | [] => none
  | ch :: rest =>
    match escapeWidth? ch with
    | some width => do
      let digits := rest.take width
      let code ← if digits.length = width then readDigits? 16 digits else none
      if (0xd800 ≤ code ∧ code ≤ 0xdfff) ∨ 0x10ffff < code then none
      else some (Char.ofNat code, width + 1)
    | none => (escapeLetter? ch).map fun c => (c, 1)

/-- The characters of a quoted scalar up to a gap, the closing quote or an escaped break; the
truth value says whether there is such a break. -/
def readQuotedWord (single : Bool) : Nat → Cursor → Except Fault (List Char × Bool × Cursor)
  | 0, c => .ok ([], false, c)
  | fuel + 1, c =>
    match c.rest with
    | [] => .ok ([], false, c)
    | ch :: rest =>
      if c.isGapAt 0 then .ok ([], false, c)
      else
        let step (read : Char) (width : Nat) :=
          (readQuotedWord single fuel (c.skip width)).map fun (word, broken, after) =>
            (read :: word, broken, after)
        if single then
          if ch = '\'' then
            if rest.head? = some '\'' then step '\'' 2 else .ok ([], false, c)
          else step ch 1
        else if ch = '"' then .ok ([], false, c)
        else if ch = '\\' then
          if rest.head?.any isBreak then .ok ([], true, (c.skip 1).skipBreak)
          else
            match readEscape? rest with
            | some (read, width) => step read (width + 1)
            | none => .error .escape
        else step ch 1

def readQuotedFrom (single : Bool) : Nat → Cursor → Except Fault (List Char × Cursor)
  | 0, _ => .error .unexpectedEnd
  | fuel + 1, c =>
    if c.atDocumentMark then .error .unexpectedCharacter
    else if c.atEnd then .error .unexpectedEnd
    else do
      let (word, broken, c) ← readQuotedWord single c.rest.length c
      if c.isHere (if single then '\'' else '"') then .ok (word, c.skip 1)
      else
        let (g, c) ← readGap none c.rest.length (if broken then Gap.joined else Gap.none) c
        let (more, c) ← readQuotedFrom single fuel c
        .ok (word ++ g.text ++ more, c)

def readQuoted (single : Bool) (c : Cursor) : Except Fault (List Char × Cursor) :=
  readQuotedFrom single (c.rest.length + 1) (c.skip 1)

inductive Chomping where
  | strip
  | clip
  | keep
  deriving DecidableEq

structure BlockHeader where
  chomping : Chomping
  increment : Option Nat

def readChomping (c : Cursor) : Option Chomping × Cursor :=
  if c.isHere '+' then (some .keep, c.skip 1)
  else if c.isHere '-' then (some .strip, c.skip 1)
  else (none, c)

def readIncrement (c : Cursor) : Except Fault (Option Nat × Cursor) :=
  match c.rest with
  | ch :: _ =>
    if ch = '0' then .error .blockHeader
    else if ch.isDigit then .ok (some (ch.toNat - '0'.toNat), c.skip 1)
    else .ok (none, c)
  | [] => .ok (none, c)

def readBlockHeader (c : Cursor) : Except Fault (BlockHeader × Cursor) := do
  let (first, c) := readChomping c
  let (increment, c) ← readIncrement c
  let (second, c) := if first.isSome ∨ increment.isNone then (first, c) else readChomping c
  let c := c.skipComment
  if c.atLineEnd then .ok (⟨second.getD .clip, increment⟩, c.skipBreak)
  else .error .blockHeader

/-- Reads empty lines and the indentation of the next line. Without a known indentation all
blanks are passed and the greatest column is found. -/
def readBlockBreaks (indent : Option Nat) :
    Nat → Nat → Cursor → Except Fault (List Char × Nat × Cursor)
  | 0, widest, c => .ok ([], widest, c)
  | fuel + 1, widest, c =>
    let room := match indent with
      | some n => n - c.column
      | none => c.rest.length
    let spaces := (c.rest.takeWhile (· = ' ')).length
    let c := c.skip (min room spaces)
    let widest := max widest c.column
    if c.isHere '\t' && indent.all (c.column < ·) then .error .indentation
    else if c.atBreak then do
      let (b, c) := c.readBreak
      let (more, widest, c) ← readBlockBreaks indent fuel widest c
      .ok (b ++ more, widest, c)
    else .ok ([], widest, c)

def folds (literal leadingBlank trailingBlank : Bool) (lead : List Char) : Bool :=
  !literal && lead.head? = some '\n' && !leadingBlank && !trailingBlank

def readBlockLines (literal : Bool) (indent : Nat) :
    Nat → Bool → List Char → List Char → Cursor →
      Except Fault (List Char × List Char × List Char × Cursor)
  | 0, _, lead, trail, c => .ok ([], lead, trail, c)
  | fuel + 1, leadingBlank, lead, trail, c =>
    if c.column ≠ indent || c.atEnd then .ok ([], lead, trail, c)
    else do
      let blank := c.atBlank
      let before :=
        if folds literal leadingBlank blank lead then
          if trail.isEmpty then [' '] else trail
        else lead ++ trail
      let (line, c) := c.takeWhile fun ch => !isBreak ch
      let (lead, c) := c.readBreak
      let (trail, _, c) ← readBlockBreaks (some indent) (c.rest.length + 1) 0 c
      let (more, lead, trail, c) ← readBlockLines literal indent fuel blank lead trail c
      .ok (before ++ line ++ more, lead, trail, c)

def readBlock (literal : Bool) (parent : Option Nat) (c : Cursor) :
    Except Fault (List Char × Cursor) := do
  let (header, c) ← readBlockHeader (c.skip 1)
  let known := header.increment.map fun n => parent.getD 0 + n
  let (trail, widest, c) ← readBlockBreaks known (c.rest.length + 1) 0 c
  let least := (parent.map (· + 1)).getD 0
  let indent := known.getD (max (max widest least) 1)
  let (text, lead, trail, c) ← readBlockLines literal indent (c.rest.length + 1) false [] trail c
  let tail := match header.chomping with
    | .strip => []
    | .clip => lead
    | .keep => lead ++ trail
  .ok (text ++ tail, c)

end ViewLayers.Yaml
