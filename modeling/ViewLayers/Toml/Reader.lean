import ViewLayers.Toml.Scalar
import ViewLayers.Toml.Table
import ViewLayers.Toml.Text

/-!
# Reading TOML

A document is a sequence of lines: headers, and keys with their values. Arrays may go on over
many lines, tables in braces may not. A value is read with an allowance of steps that no text
of its length can use up.
-/

namespace ViewLayers.Toml

/-- Lets every line end in a line feed alone. A carriage return stands nowhere else. -/
def unifyLines : List Char → Option (List Char)
  | [] => some []
  | '\r' :: '\n' :: rest => (unifyLines rest).map ('\n' :: ·)
  | c :: rest => if c = '\r' then none else (unifyLines rest).map (c :: ·)

def skipBlanks (cs : List Char) : List Char := cs.dropWhile isBlank

def skipComment (cs : List Char) : List Char :=
  match cs with
  | '#' :: rest => rest.dropWhile isLineChar
  | _ => cs

def endLine? (cs : List Char) : Option (List Char) :=
  match skipComment (skipBlanks cs) with
  | [] => some []
  | '\n' :: rest => some rest
  | _ => none

def skipLines (inComment : Bool) : List Char → List Char
  | [] => []
  | c :: rest =>
    if inComment && isLineChar c then skipLines true rest
    else if c = '#' then skipLines true rest
    else if c = '\n' then skipLines false rest
    else if isBlank c && !inComment then skipLines false rest
    else c :: rest

def isBareKeyChar (c : Char) : Bool := c.isAlphanum || c = '_' || c = '-'

def readKeyPart? (cs : List Char) : Option (String × List Char) :=
  match cs with
  | c :: _ =>
    if c = '"' || c = '\'' then
      (readLineText? cs).map fun (s, rest) => (String.ofList s, rest)
    else
      let name := cs.takeWhile isBareKeyChar
      if name.isEmpty then none
      else some (String.ofList name, cs.dropWhile isBareKeyChar)
  | [] => none

def readKeyRest? : Nat → List Char → Option (List String × List Char)
  | 0, cs => some ([], cs)
  | steps + 1, cs =>
    match skipBlanks cs with
    | '.' :: rest => do
      let (part, rest) ← readKeyPart? (skipBlanks rest)
      let (parts, rest) ← readKeyRest? steps rest
      return (part :: parts, rest)
    | rest => some ([], rest)

def greatestDepth : Nat := 80

def readKey? (cs : List Char) : Option (List String × String × List Char) := do
  let (first, rest) ← readKeyPart? (skipBlanks cs)
  let (parts, rest) ← readKeyRest? cs.length rest
  if greatestDepth ≤ parts.length + 1 then none
  return ((first :: parts).dropLast, (first :: parts).getLast?.getD first, rest)

def isWordChar (c : Char) : Bool := c.isAlphanum || "+-._:".toList.contains c

def readWord (cs : List Char) : List Char × List Char :=
  let word := cs.takeWhile isWordChar
  match cs.dropWhile isWordChar with
  | ' ' :: c :: rest =>
    if c.isDigit && afterDate? word = some [] then
      (word ++ ' ' :: (c :: rest).takeWhile isWordChar, (c :: rest).dropWhile isWordChar)
    else (word, ' ' :: c :: rest)
  | rest => (word, rest)

/-- What is being read: a value, the rest of an array or the rest of a table in braces. The
last two carry what has been read; a table may not end after a comma. -/
inductive Part where
  | value
  | items (done : List Toml)
  | members (done : Members) (mayEnd : Bool)

def readPart? : Nat → Nat → Part → List Char → Option (Toml × List Char)
  | 0, _, _, _ => none
  | steps + 1, depth, .value, cs =>
    match cs with
    | '[' :: rest => if depth = 0 then none else readPart? steps (depth - 1) (.items []) rest
    | '\x7b' :: rest =>
      if depth = 0 then none else readPart? steps (depth - 1) (.members [] true) rest
    | c :: _ =>
      if c = '"' || c = '\'' then
        (readText? cs).map fun (s, rest) => (.string (String.ofList s), rest)
      else
        let (word, rest) := readWord cs
        (ofWord? word).map fun v => (v, rest)
    | [] => none
  | steps + 1, depth, .items done, cs => do
    match skipLines false cs with
    | ']' :: rest => return (.array done, rest)
    | cs =>
      let (v, rest) ← readPart? steps depth .value cs
      match skipLines false rest with
      | ',' :: rest => readPart? steps depth (.items (done ++ [v])) rest
      | ']' :: rest => return (.array (done ++ [v]), rest)
      | _ => none
  | steps + 1, depth, .members done mayEnd, cs => do
    match skipBlanks cs, mayEnd with
    | '\x7d' :: rest, true => return (.table (finishMembers done), rest)
    | cs, _ =>
      let (path, name, rest) ← readKey? cs
      match rest with
      | '=' :: rest =>
        let (v, rest) ← readPart? steps depth .value (skipBlanks rest)
        let done ← Members.define name v path done
        match skipBlanks rest with
        | ',' :: rest => readPart? steps depth (.members done false) rest
        | '\x7d' :: rest => return (.table (finishMembers done), rest)
        | _ => none
      | _ => none

def readValue? (cs : List Char) : Option (Toml × List Char) :=
  readPart? (2 * cs.length + 2) (greatestDepth - 1) .value cs

structure Progress where
  members : Members
  path : List String

def readHeader? (p : Progress) (cs : List Char) : Option (Progress × List Char) := do
  let (isNext, cs) := match cs with
    | '[' :: rest => (true, rest)
    | _ => (false, cs)
  let (path, name, rest) ← readKey? cs
  let rest ← match rest, isNext with
    | ']' :: ']' :: rest, true => some rest
    | ']' :: rest, false => some rest
    | _, _ => none
  let rest ← endLine? rest
  let opening := if isNext then Members.openNext name else Members.openTable name
  return (⟨← p.members.change opening path, path ++ [name]⟩, rest)

def readPair? (p : Progress) (cs : List Char) : Option (Progress × List Char) := do
  let (path, name, rest) ← readKey? cs
  match rest with
  | '=' :: rest =>
    let (v, rest) ← readValue? (skipBlanks rest)
    let rest ← endLine? rest
    return (⟨← p.members.change (Members.define name v path) p.path, p.path⟩, rest)
  | _ => none

def readLines? : Nat → Progress → List Char → Option Members
  | 0, _, _ => none
  | steps + 1, p, cs => do
    match skipBlanks cs with
    | [] => return p.members
    | '\n' :: rest => readLines? steps p rest
    | '#' :: rest => readLines? steps p (← endLine? ('#' :: rest))
    | '[' :: rest =>
      let (p, rest) ← readHeader? p rest
      readLines? steps p rest
    | cs =>
      let (p, rest) ← readPair? p cs
      readLines? steps p rest

def read? (s : String) : Option Value := do
  let cs ← unifyLines (if s.toList.head? = some '\ufeff' then s.toList.drop 1 else s.toList)
  let members ← readLines? (cs.length + 1) ⟨[], []⟩ cs
  return documentValue (finishMembers members)

end ViewLayers.Toml
