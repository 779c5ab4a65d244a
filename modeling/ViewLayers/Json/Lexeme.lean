import ViewLayers.Json.Basic
import ViewLayers.Number.Decimal

/-!
# The lexemes of a JSON text

A text is passed over once, one character at a time. What has been read of a lexeme is its
pending part, and every character either continues it or begins the next one.
-/

namespace ViewLayers

inductive Lexeme where
  | openArray
  | closeArray
  | openObject
  | closeObject
  | comma
  | colon
  | text (s : String)
  | atom (letters : List Char)

namespace Lexeme

inductive Pending where
  | nothing
  | atom (letters : List Char)
  | text (letters : List Char)
  | escape (letters : List Char)
  /-- The digits after `\u`; `lead` is the first half of a pair. -/
  | unit (letters : List Char) (lead : Option Nat) (digits : List Char)
  /-- A first half has been read; a backslash must follow, then a `u`. -/
  | half (letters : List Char) (lead : Nat) (slashed : Bool)

structure Scan where
  found : List Lexeme
  pending : Pending

def isSpace (c : Char) : Bool := c = ' ' || c = '\n' || c = '\t' || c = '\r'

def isAtomLetter (c : Char) : Bool := c.isAlphanum || c = '+' || c = '-' || c = '.'

def mark? (c : Char) : Option Lexeme :=
  match c with
  | '[' => some .openArray
  | ']' => some .closeArray
  | '\x7b' => some .openObject
  | '\x7d' => some .closeObject
  | ',' => some .comma
  | ':' => some .colon
  | _ => none

def escaped? (c : Char) : Option Char :=
  match c with
  | '"' => some '"'
  | '\\' => some '\\'
  | '/' => some '/'
  | 'b' => some '\x08'
  | 'f' => some '\x0c'
  | 'n' => some '\n'
  | 'r' => some '\r'
  | 't' => some '\t'
  | _ => none

def isLead (unit : Nat) : Bool := 0xd800 ≤ unit && unit < 0xdc00

def isTrail (unit : Nat) : Bool := 0xdc00 ≤ unit && unit < 0xe000

def joined (lead trail : Nat) : Char :=
  Char.ofNat (0x10000 + (lead - 0xd800) * 0x400 + (trail - 0xdc00))

def endUnit (letters : List Char) (lead : Option Nat) (unit : Nat) : Option Pending :=
  match lead with
  | some l => if isTrail unit then some (.text (joined l unit :: letters)) else none
  | none =>
    if isLead unit then some (.half letters unit false)
    else if isTrail unit then none
    else some (.text (Char.ofNat unit :: letters))

def start (found : List Lexeme) (c : Char) : Option Scan :=
  if isSpace c then some ⟨found, .nothing⟩
  else if c = '"' then some ⟨found, .text []⟩
  else if isAtomLetter c then some ⟨found, .atom [c]⟩
  else (mark? c).map fun m => ⟨m :: found, .nothing⟩

def step (s : Scan) (c : Char) : Option Scan :=
  match s.pending with
  | .nothing => start s.found c
  | .atom letters =>
    if isAtomLetter c then some ⟨s.found, .atom (c :: letters)⟩
    else start (.atom letters.reverse :: s.found) c
  | .text letters =>
    if c = '"' then some ⟨.text (String.ofList letters.reverse) :: s.found, .nothing⟩
    else if c = '\\' then some ⟨s.found, .escape letters⟩
    else if c.toNat < 0x20 then none
    else some ⟨s.found, .text (c :: letters)⟩
  | .escape letters =>
    if c = 'u' then some ⟨s.found, .unit letters none []⟩
    else (escaped? c).map fun e => ⟨s.found, .text (e :: letters)⟩
  | .unit letters lead digits =>
    if digits.length < 3 then some ⟨s.found, .unit letters lead (digits ++ [c])⟩
    else do
      let unit ← readDigits? 16 (digits ++ [c])
      return ⟨s.found, ← endUnit letters lead unit⟩
  | .half letters lead slashed =>
    if slashed then if c = 'u' then some ⟨s.found, .unit letters (some lead) []⟩ else none
    else if c = '\\' then some ⟨s.found, .half letters lead true⟩
    else none

def finish (s : Scan) : Option (List Lexeme) :=
  match s.pending with
  | .nothing => some s.found.reverse
  | .atom letters => some (.atom letters.reverse :: s.found).reverse
  | _ => none

def ofText? (s : String) : Option (List Lexeme) :=
  (s.toList.foldlM step ⟨[], .nothing⟩).bind finish

end Lexeme

end ViewLayers
