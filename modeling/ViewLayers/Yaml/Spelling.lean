import ViewLayers.Json.Basic
import ViewLayers.Yaml.Cursor
import ViewLayers.Yaml.Scalar

/-!
# Written texts

A text is written plain if it then reads as itself, else in single quotes. A text with line
feeds is written as a block. What neither can hold stands in double quotes, where every
character has an escape. Lines that a text continues on are indented.
-/

namespace ViewLayers.Yaml

inductive Spelling where
  | plain
  | single
  | double
  | block
  deriving DecidableEq, Repr

namespace Spelling

def isPrintable (c : Char) : Bool :=
  c = '\n' || (' ' ≤ c && c ≤ '~') || ('\u00a0' ≤ c && c.toNat ≤ 0xfffd && c ≠ '\ufeff')
    || 0x10000 ≤ c.toNat

def endsWord (cs : List Char) : Bool :=
  match cs with
  | [] => true
  | c :: _ => isSpaceOrTab c || isBreak c || c = '\x00'

def openers : List Char :=
  ['#', ',', '[', ']', '\x7b', '\x7d', '&', '*', '!', '|', '>', '\'', '"', '%', '@', '\x60']

def opensNode (cs : List Char) : Bool :=
  match cs with
  | [] => false
  | c :: rest =>
    openers.contains c || ((c = '?' || c = ':' || c = '-') && endsWord rest)

def marksInside : List Char → Bool
  | c :: d :: rest =>
    (d = ':' && endsWord rest) || (d = '#' && endsWord [c]) || marksInside (d :: rest)
  | _ => false

def isMarked (cs : List Char) : Bool :=
  "---".toList.isPrefixOf cs || "...".toList.isPrefixOf cs || opensNode cs || marksInside cs

def meets (p q : Char → Bool) (cs : List Char) : Bool :=
  (cs.zip (cs.drop 1)).any fun e => p e.1 && q e.2

def isSpace (c : Char) : Bool := c = ' '

def plainAllowed (cs : List Char) : Bool :=
  cs.all isPrintable && !cs.any isBreak && !cs.head?.any isSpace && !cs.getLast?.any isSpace
    && !isMarked cs

def singleAllowed (cs : List Char) : Bool :=
  cs.all isPrintable && !meets isSpace isBreak cs && !meets isBreak isSpace cs

def blockAllowed (cs : List Char) : Bool :=
  cs.all isPrintable && !meets isSpace isBreak cs && !cs.getLast?.any isSpace

def wanted (cs : List Char) : Spelling :=
  if cs.contains '\n' then .block
  else if Meaning.ofPlain cs ≠ .text || Meaning.isPaddedDigits cs then .single
  else .plain

def ofText (cs : List Char) : Spelling :=
  match wanted cs with
  | .block => if blockAllowed cs then .block else .double
  | .plain =>
    if plainAllowed cs then .plain else if singleAllowed cs then .single else .double
  | _ => if singleAllowed cs then .single else .double

def indented (width : Nat) : Bool → List Char → List Char
  | _, [] => []
  | broken, c :: cs =>
    if isBreak c then c :: indented width true cs
    else (if broken then List.replicate width ' ' else []) ++ c :: indented width false cs

def upperHex (width n : Nat) : List Char := (Json.hexDigits width n).map Char.toUpper

def escapes : List (Char × Char) :=
  [('\x00', '0'), ('\x07', 'a'), ('\x08', 'b'), ('\t', 't'), ('\n', 'n'), ('\x0b', 'v'),
    ('\x0c', 'f'), ('\r', 'r'), ('\x1b', 'e'), ('"', '"'), ('\\', '\\'), ('\u0085', 'N'),
    ('\u2028', 'L'), ('\u2029', 'P')]

def escaped (c : Char) : List Char :=
  match escapes.find? fun e => e.1 = c with
  | some e => ['\\', e.2]
  | none =>
    if isPrintable c then [c]
    else if c.toNat < 0x100 then '\\' :: 'x' :: upperHex 2 c.toNat
    else '\\' :: 'u' :: upperHex 4 c.toNat

def singleQuoted (width : Nat) (cs : List Char) : List Char :=
  let body := cs.flatMap fun c => if c = '\'' then ['\'', '\''] else [c]
  '\'' :: indented width false (body ++ ['\''])

def doubleQuoted (cs : List Char) : List Char := '"' :: (cs.flatMap escaped ++ ['"'])

/-- Tells the indentation where the text hides it. -/
def indentMark (cs : List Char) : List Char :=
  if cs.head?.any fun c => c = ' ' || isBreak c then ['2'] else []

def endMark (cs : List Char) : List Char :=
  match cs.reverse with
  | [] => ['-']
  | c :: before =>
    if !isBreak c then ['-']
    else if before.isEmpty || before.head?.any isBreak then ['+']
    else []

def blockText (width : Nat) (cs : List Char) : List Char :=
  '|' :: (indentMark cs ++ endMark cs ++ '\n' :: indented width true cs)

end Spelling

def written (width : Nat) (s : String) : String :=
  let cs := s.toList
  String.ofList <|
    match Spelling.ofText cs with
    | .plain => cs
    | .single => Spelling.singleQuoted width cs
    | .double => Spelling.doubleQuoted cs
    | .block => Spelling.blockText width cs

end ViewLayers.Yaml
