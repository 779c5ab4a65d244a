import ViewLayers.Yaml.Fault

/-!
# Places in a text

A cursor is the rest of a text with the place where it starts. Line breaks are those of YAML
1.1: line feed, carriage return, both together, next line and the two separators.
-/

namespace ViewLayers.Yaml

def isBreak (c : Char) : Bool :=
  c = '\n' || c = '\r' || c = '\u0085' || c = '\u2028' || c = '\u2029'

def isSpaceOrTab (c : Char) : Bool := c = ' ' || c = '\t'

def isNameChar (c : Char) : Bool := c.isAlphanum || c = '_' || c = '-'

def isAllowed (c : Char) : Bool :=
  c = '\t' || c = '\n' || c = '\r' || (' ' ≤ c && c ≤ '~') || c = '\u0085'
    || ('\u00a0' ≤ c && c.toNat ≤ 0xfffd) || 0x10000 ≤ c.toNat

structure Cursor where
  rest : List Char
  index : Nat
  line : Nat
  column : Nat

namespace Cursor

def start (cs : List Char) : Cursor := ⟨cs, 0, 0, 0⟩

def atEnd (c : Cursor) : Bool := c.rest.isEmpty

def skip (c : Cursor) (n : Nat) : Cursor :=
  ⟨c.rest.drop n, c.index + n, c.line, c.column + n⟩

def isAt (c : Cursor) (n : Nat) (ch : Char) : Bool := c.rest[n]? = some ch

def sees (c : Cursor) (p : Char → Bool) : Bool := c.rest.head?.any p

def isHere (c : Cursor) (ch : Char) : Bool := c.isAt 0 ch

def atBreak (c : Cursor) : Bool := c.sees isBreak

def atBlank (c : Cursor) : Bool := c.sees isSpaceOrTab

def isGapAt (c : Cursor) (n : Nat) : Bool :=
  match c.rest[n]? with
  | some ch => isSpaceOrTab ch || isBreak ch
  | none => true

def atLineEnd (c : Cursor) : Bool := c.atEnd || c.atBreak

def takeWhile (c : Cursor) (p : Char → Bool) : List Char × Cursor :=
  let taken := c.rest.takeWhile p
  (taken, c.skip taken.length)

def skipWhile (c : Cursor) (p : Char → Bool) : Cursor := (c.takeWhile p).2

def readBreak (c : Cursor) : List Char × Cursor :=
  match c.rest with
  | '\r' :: '\n' :: rest => (['\n'], ⟨rest, c.index + 2, c.line + 1, 0⟩)
  | ch :: rest =>
    if isBreak ch then
      (if ch = '\u2028' ∨ ch = '\u2029' then [ch] else ['\n'],
        ⟨rest, c.index + 1, c.line + 1, 0⟩)
    else ([], c)
  | [] => ([], c)

def skipBreak (c : Cursor) : Cursor := c.readBreak.2

def marksDocument (c : Cursor) (ch : Char) : Bool :=
  c.column = 0 && c.isAt 0 ch && c.isAt 1 ch && c.isAt 2 ch && c.isGapAt 3

def atDocumentMark (c : Cursor) : Bool := c.marksDocument '-' || c.marksDocument '.'

def skipComment (c : Cursor) : Cursor :=
  let c := c.skipWhile isSpaceOrTab
  if c.isHere '#' then c.skipWhile fun ch => !isBreak ch else c

end Cursor

end ViewLayers.Yaml
