import ViewLayers.Yaml.Cursor
import ViewLayers.Yaml.Token
import ViewLayers.Number.Decimal

/-!
# Reading names

Anchors, aliases, tags and directives.
-/

namespace ViewLayers.Yaml

def endsAnchor (c : Char) : Bool := ['?', ':', ',', ']', '}', '%', '@', '\x60'].contains c

def readAnchorName (c : Cursor) : Except Fault (List Char × Cursor) :=
  let (name, after) := (c.skip 1).takeWhile isNameChar
  if name.isEmpty then .error .anchor
  else if after.isGapAt 0 || after.sees endsAnchor then .ok (name, after)
  else .error .anchor

def isTagChar (bracketed : Bool) (c : Char) : Bool :=
  isNameChar c || ";/?:@&=+$.%!~*'()".toList.contains c
    || (bracketed && [',', '[', ']'].contains c)

def hexByte? : List Char → Option Nat
  | '%' :: a :: b :: _ => readDigits? 16 [a, b]
  | _ => none

def leadByte? (b : Nat) : Option (Nat × Nat) :=
  if b < 0x80 then some (0, b)
  else if 0xc0 ≤ b ∧ b < 0xe0 then some (1, b % 0x20)
  else if 0xe0 ≤ b ∧ b < 0xf0 then some (2, b % 0x10)
  else if 0xf0 ≤ b ∧ b < 0xf8 then some (3, b % 0x08)
  else none

def readTrail? : Nat → Nat → List Char → Option Nat
  | 0, done, _ => some done
  | n + 1, done, cs =>
    (hexByte? cs).bind fun b =>
      if 0x80 ≤ b ∧ b < 0xc0 then readTrail? n (done * 0x40 + b % 0x40) (cs.drop 3) else none

def readEncoded? (cs : List Char) : Option (Char × Nat) := do
  let (more, bits) ← (hexByte? cs).bind leadByte?
  let code ← readTrail? more bits (cs.drop 3)
  some (Char.ofNat code, 3 * (more + 1))

def readTagChars (bracketed : Bool) : Nat → Cursor → Except Fault (List Char × Cursor)
  | 0, c => .ok ([], c)
  | fuel + 1, c =>
    match c.rest with
    | [] => .ok ([], c)
    | ch :: _ =>
      if !isTagChar bracketed ch then .ok ([], c)
      else
        match if ch = '%' then readEncoded? c.rest else some (ch, 1) with
        | none => .error .tag
        | some (read, width) =>
          (readTagChars bracketed fuel (c.skip width)).map fun (more, after) =>
            (read :: more, after)

def readTagText (bracketed : Bool) (c : Cursor) : Except Fault (List Char × Cursor) :=
  readTagChars bracketed c.rest.length c

def readHandle (c : Cursor) : List Char × Cursor :=
  let (name, after) := (c.skip 1).takeWhile isNameChar
  if after.isHere '!' then ('!' :: (name ++ ['!']), after.skip 1) else ('!' :: name, after)

/-- A tag as its handle and suffix. Angle brackets hold a tag without a handle; a lone mark
is a suffix without a handle. -/
def readTagParts (c : Cursor) : Except Fault ((List Char × List Char) × Cursor) :=
  if c.isAt 1 '<' then do
    let (suffix, after) ← readTagText true (c.skip 2)
    if suffix.isEmpty || !after.isHere '>' then .error .tag
    else .ok (([], suffix), after.skip 1)
  else
    let (handle, after) := readHandle c
    if 1 < handle.length ∧ handle.getLast? = some '!' then do
      let (suffix, after) ← readTagText false after
      if suffix.isEmpty then .error .tag else .ok ((handle, suffix), after)
    else do
      let (more, after) ← readTagText false after
      match handle.drop 1 ++ more with
      | [] => .ok (([], ['!']), after)
      | suffix => .ok ((['!'], suffix), after)

def readTag (inFlow : Bool) (c : Cursor) : Except Fault (Token × Cursor) := do
  let ((handle, suffix), after) ← readTagParts c
  if (inFlow && after.isHere ',') || after.isGapAt 0 then .ok (.tag handle suffix, after)
  else .error .tag

def readVersionPart (c : Cursor) : Except Fault (Nat × Cursor) :=
  let (digits, after) := c.takeWhile Char.isDigit
  match readDigits? 10 digits with
  | some n => if digits.length ≤ 9 then .ok (n, after) else .error .directive
  | none => .error .directive

def readVersion (c : Cursor) : Except Fault (Token × Cursor) := do
  let (major, c) ← readVersionPart (c.skipWhile isSpaceOrTab)
  if !c.isHere '.' then .error .directive
  else
    let (minor, c) ← readVersionPart (c.skip 1)
    .ok (.versionDirective major minor, c)

def readTagDirective (c : Cursor) : Except Fault (Token × Cursor) := do
  let c := c.skipWhile isSpaceOrTab
  if !c.isHere '!' then .error .directive
  else
    let (handle, c) := readHandle c
    if handle.getLast? ≠ some '!' then .error .directive
    else if !c.sees isSpaceOrTab then .error .directive
    else
      let (start, c) ← readTagText true (c.skipWhile isSpaceOrTab)
      if start.isEmpty || !c.isGapAt 0 then .error .directive
      else .ok (.tagDirective handle start, c)

def readDirective (c : Cursor) : Except Fault (Token × Cursor) := do
  let (name, c) := (c.skip 1).takeWhile isNameChar
  if name.isEmpty || !c.isGapAt 0 then .error .directive
  else
    let (token, c) ←
      if name = "YAML".toList then readVersion c
      else if name = "TAG".toList then readTagDirective c
      else .error .directive
    let c := c.skipComment
    if c.atLineEnd then .ok (token, c.skipBreak) else .error .directive

end ViewLayers.Yaml
