import ViewLayers.Number.Decimal

/-!
# TOML texts

Four kinds of quotes: double ones with escapes and single ones without, each for one line or,
tripled, for many. Up to two quotes may stand before a tripled end. Lines end in a line feed
here; the reader of documents has seen to that.
-/

namespace ViewLayers.Toml

def isBlank (c : Char) : Bool := c = ' ' || c = '\t'

def isLineChar (c : Char) : Bool :=
  c = '\t' || (' ' ≤ c && c ≤ '~') || 0x80 ≤ c.toNat

def isBlockChar (c : Char) : Bool := c = '\n' || isLineChar c

def codePoint? (digits : List Char) : Option Char := do
  let n ← readDigits? 16 digits
  if n.isValidChar then some (Char.ofNat n) else none

def escaped? (c : Char) : Option Char :=
  match c with
  | 'b' => some '\x08'
  | 't' => some '\t'
  | 'n' => some '\n'
  | 'f' => some '\x0c'
  | 'r' => some '\r'
  | '"' => some '"'
  | '\\' => some '\\'
  | _ => none

def readEscape? (cs : List Char) : Option (Char × List Char) :=
  match cs with
  | 'u' :: rest => (codePoint? (rest.take 4)).bind fun c =>
    if 4 ≤ rest.length then some (c, rest.drop 4) else none
  | 'U' :: rest => (codePoint? (rest.take 8)).bind fun c =>
    if 8 ≤ rest.length then some (c, rest.drop 8) else none
  | c :: rest => (escaped? c).map fun e => (e, rest)
  | [] => none

theorem length_of_readEscape? {cs rest : List Char} {c : Char}
    (h : readEscape? cs = some (c, rest)) : rest.length < cs.length := by
  unfold readEscape? at h
  split at h
  · obtain ⟨_, _, h⟩ := Option.bind_eq_some_iff.1 h
    split at h
    · simp only [Option.some.injEq, Prod.mk.injEq] at h
      rw [← h.2, List.length_drop, List.length_cons]
      omega
    · simp at h
  · obtain ⟨_, _, h⟩ := Option.bind_eq_some_iff.1 h
    split at h
    · simp only [Option.some.injEq, Prod.mk.injEq] at h
      rw [← h.2, List.length_drop, List.length_cons]
      omega
    · simp at h
  · obtain ⟨_, _, h⟩ := Option.map_eq_some_iff.1 h
    simp_all
  · simp at h

def readLiteral? : List Char → Option (List Char × List Char)
  | [] => none
  | c :: rest =>
    if c = '\'' then some ([], rest)
    else if isLineChar c then (readLiteral? rest).map fun (s, after) => (c :: s, after)
    else none

def readBasic? (cs : List Char) : Option (List Char × List Char) :=
  match cs with
  | [] => none
  | '"' :: rest => some ([], rest)
  | '\\' :: rest =>
    match _h : readEscape? rest with
    | none => none
    | some (c, after) => (readBasic? after).map fun (s, more) => (c :: s, more)
  | c :: rest =>
    if isLineChar c then (readBasic? rest).map fun (s, more) => (c :: s, more) else none
termination_by cs.length
decreasing_by
  · have := length_of_readEscape? _h
    simp; omega
  · simp

/-- The quotes at the start of a text, up to five. Three of them end it. -/
def quotesAhead (quote : Char) (cs : List Char) : Nat :=
  ((cs.take 5).takeWhile (· = quote)).length

def readBlockLiteral? : List Char → Option (List Char × List Char)
  | [] => none
  | c :: rest =>
    let n := quotesAhead '\'' (c :: rest)
    if 3 ≤ n then some (List.replicate (n - 3) '\'', (c :: rest).drop n)
    else if isBlockChar c then
      (readBlockLiteral? rest).map fun (s, after) => (c :: s, after)
    else none

def isGap (c : Char) : Bool := isBlank c || c = '\n'

def afterJoin? (cs : List Char) : Option (List Char) :=
  match cs.dropWhile isBlank with
  | '\n' :: rest => some (rest.dropWhile isGap)
  | _ => none

theorem length_dropWhile_le (p : Char → Bool) (cs : List Char) :
    (cs.dropWhile p).length ≤ cs.length :=
  (List.dropWhile_suffix p).length_le

theorem length_of_afterJoin? {cs rest : List Char} (h : afterJoin? cs = some rest) :
    rest.length < cs.length := by
  unfold afterJoin? at h
  split at h
  · rename_i more heq
    have h1 := length_dropWhile_le isBlank cs
    have h2 := length_dropWhile_le isGap more
    simp only [heq, List.length_cons] at h1
    simp only [Option.some.injEq] at h
    subst h
    omega
  · simp at h

def readBlockBasic? (cs : List Char) : Option (List Char × List Char) :=
  match cs with
  | [] => none
  | c :: rest =>
    let n := quotesAhead '"' (c :: rest)
    if 3 ≤ n then some (List.replicate (n - 3) '"', (c :: rest).drop n)
    else if c = '\\' then
      match _hj : afterJoin? rest with
      | some after => readBlockBasic? after
      | none =>
        match _he : readEscape? rest with
        | none => none
        | some (e, after) => (readBlockBasic? after).map fun (s, more) => (e :: s, more)
    else if isBlockChar c then
      (readBlockBasic? rest).map fun (s, more) => (c :: s, more)
    else none
termination_by cs.length
decreasing_by
  · have := length_of_afterJoin? _hj
    simp; omega
  · have := length_of_readEscape? _he
    simp; omega
  · simp

def skipFirstBreak (cs : List Char) : List Char :=
  match cs with
  | '\n' :: rest => rest
  | _ => cs

def readLineText? (cs : List Char) : Option (List Char × List Char) :=
  match cs with
  | '"' :: rest => readBasic? rest
  | '\'' :: rest => readLiteral? rest
  | _ => none

def readText? (cs : List Char) : Option (List Char × List Char) :=
  match cs with
  | '"' :: '"' :: '"' :: rest => readBlockBasic? (skipFirstBreak rest)
  | '\'' :: '\'' :: '\'' :: rest => readBlockLiteral? (skipFirstBreak rest)
  | _ => readLineText? cs

end ViewLayers.Toml
