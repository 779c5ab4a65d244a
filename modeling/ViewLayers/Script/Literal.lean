import ViewLayers.Text.CharRange
import ViewLayers.Json.Basic

/-!
# Text literals of a script

A text between single quotes, on one line: the quote, the backslash, controls and the two
line separators are escaped. Reading a literal back is defined beside writing it.
-/

namespace ViewLayers.Script

def escapedChar (c : Char) : List Char :=
  if c = '\\' then ['\\', '\\']
  else if c = '\'' then ['\\', '\'']
  else if c = '\n' then ['\\', 'n']
  else if c = '\r' then ['\\', 'r']
  else if c = '\t' then ['\\', 't']
  else if Text.isControl c || c = '\u2028' || c = '\u2029' then
    '\\' :: 'u' :: Json.hexDigits 4 c.toNat
  else [c]

def encode (s : List Char) : List Char := '\'' :: (s.flatMap escapedChar ++ ['\''])

def literal (s : String) : String := String.ofList (encode s.toList)

def optionalLiteral : Option String → String
  | some s => literal s
  | none => "null"

def hexValue? (c : Char) : Option Nat :=
  if '0' ≤ c ∧ c ≤ '9' then some (c.toNat - '0'.toNat)
  else if 'a' ≤ c ∧ c ≤ 'f' then some (c.toNat - 'a'.toNat + 10)
  else if 'A' ≤ c ∧ c ≤ 'F' then some (c.toNat - 'A'.toNat + 10)
  else none

def isLineEnd (c : Char) : Bool := c = '\n' || c = '\r' || c = '\u2028' || c = '\u2029'

def decodeBody : List Char → Option (List Char × List Char)
  | '\'' :: rest => some ([], rest)
  | '\\' :: 'u' :: a :: b :: c :: d :: rest => do
    let a ← hexValue? a
    let b ← hexValue? b
    let c ← hexValue? c
    let d ← hexValue? d
    let (s, after) ← decodeBody rest
    some (Char.ofNat (((a * 16 + b) * 16 + c) * 16 + d) :: s, after)
  | '\\' :: e :: rest => do
    let c ← if e = 'n' then some '\n' else if e = 'r' then some '\r'
      else if e = 't' then some '\t' else if e = '\\' ∨ e = '\'' then some e else none
    let (s, after) ← decodeBody rest
    some (c :: s, after)
  | c :: rest =>
    if c = '\\' ∨ isLineEnd c then none
    else (decodeBody rest).map fun (s, after) => (c :: s, after)
  | [] => none

def decode : List Char → Option (List Char × List Char)
  | '\'' :: rest => decodeBody rest
  | _ => none

end ViewLayers.Script
