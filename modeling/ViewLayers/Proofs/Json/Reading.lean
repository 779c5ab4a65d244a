import ViewLayers.Json.Reader
import ViewLayers.Proofs.Json.Lexemes
import ViewLayers.Proofs.Json.Members

/-!
# Reading a written document back

A written document is read as the document itself but for two things: a number is what its text
is read as, and collections stand inside of each other to some depth only. Both written forms are
read alike.
-/

namespace ViewLayers.Json

open Reading (step place atom? greatestDepth)

mutual

/-- What is read back, where there is room for so many collections inside of each other. -/
def readBack? : Nat → Json → Option Json
  | _, .null => some .null
  | _, .bool b => some (.bool b)
  | _, .int n => atom? (toString n).toList
  | _, .float x => atom? (floatText x).toList
  | _, .string s => some (.string s)
  | 0, .array _ => none
  | room + 1, .array items => (readItems? room items).map .array
  | 0, .object _ => none
  | room + 1, .object members => (readMembers? room members).map .object

def readItems? : Nat → List Json → Option (List Json)
  | _, [] => some []
  | room, d :: ds => do
    let w ← readBack? room d
    let ws ← readItems? room ds
    some (w :: ws)

def readMembers? : Nat → List (String × Json) → Option (List (String × Json))
  | _, [] => some []
  | room, (name, d) :: ms => do
    let w ← readBack? room d
    let ws ← readMembers? room ms
    some ((name, w) :: ws)

end

section Holding

variable {room : Nat}

theorem readItems?_eq_some_iff {ds ws : List Json} :
    readItems? room ds = some ws ↔ List.Forall₂ (fun d w => readBack? room d = some w) ds ws := by
  induction ds generalizing ws with
  | nil => simp [readItems?, eq_comm]
  | cons d ds ih =>
    simp only [readItems?, Option.bind_eq_bind, Option.bind_eq_some_iff, Option.some.injEq, ih,
      List.forall₂_cons_left_iff]
    constructor
    · rintro ⟨w, hw, ws, hws, rfl⟩
      exact ⟨w, ws, hw, hws, rfl⟩
    · rintro ⟨w, ws, hw, hws, rfl⟩
      exact ⟨w, hw, ws, hws, rfl⟩

theorem readMembers?_eq_some_iff {ms ns : List (String × Json)} :
    readMembers? room ms = some ns ↔
      List.Forall₂ (SameNamed fun d w => readBack? room d = some w) ms ns := by
  induction ms generalizing ns with
  | nil => simp [readMembers?, eq_comm]
  | cons m ms ih =>
    obtain ⟨name, d⟩ := m
    simp only [readMembers?, Option.bind_eq_bind, Option.bind_eq_some_iff, Option.some.injEq, ih,
      List.forall₂_cons_left_iff]
    constructor
    · rintro ⟨w, hw, ns, hns, rfl⟩
      exact ⟨(name, w), ns, ⟨rfl, hw⟩, hns, rfl⟩
    · rintro ⟨⟨_, w⟩, ns, ⟨rfl, hw⟩, hns, rfl⟩
      exact ⟨w, hw, ns, hns, rfl⟩

end Holding

section Phases

variable (frames : List Frame) (more : List Lexeme)

theorem foldlM_step_atom (letters : List Char) :
    (.atom letters :: more).foldlM step ⟨frames, .value⟩ =
      (atom? letters).bind fun w => more.foldlM step (place frames w) := by
  have hstep : step ⟨frames, .value⟩ (.atom letters) = (atom? letters).map (place frames) := rfl
  rw [List.foldlM_cons, hstep]
  cases atom? letters <;> rfl

theorem foldlM_step_firstItem {items : List Json} (h : items ≠ []) :
    (lexemesOfItems items ++ more).foldlM step ⟨frames, .firstItem⟩ =
      (lexemesOfItems items ++ more).foldlM step ⟨frames, .value⟩ := by
  have hitem : ∀ (d : Json) (after : List Lexeme),
      (d.lexemes ++ after).foldlM step ⟨frames, .firstItem⟩ =
        (d.lexemes ++ after).foldlM step ⟨frames, .value⟩ := by
    intro d after
    cases d <;> rw [lexemes] <;> rfl
  match items with
  | [] => exact absurd rfl h
  | [d] =>
    rw [lexemesOfItems]
    exact hitem d more
  | d :: e :: ds =>
    rw [lexemesOfItems_cons_cons, List.append_assoc]
    exact hitem d _

theorem foldlM_step_firstMember {members : List (String × Json)} (h : members ≠ []) :
    (lexemesOfMembers members ++ more).foldlM step ⟨frames, .firstMember⟩ =
      (lexemesOfMembers members ++ more).foldlM step ⟨frames, .member⟩ := by
  match members with
  | [] => exact absurd rfl h
  | [m] => rfl
  | m :: n :: ms => rfl

theorem foldlM_step_closeArray (items : List Json) :
    (.closeArray :: more).foldlM step ⟨.array (items.reverse ++ []) :: frames, .after⟩ =
      more.foldlM step (place frames (.array items)) := by
  rw [List.foldlM_cons, List.append_nil]
  simp [step, Reading.close]

theorem foldlM_step_closeObject (members : List (String × Json)) :
    (.closeObject :: more).foldlM step ⟨.object (members.reverse ++ []) "" :: frames, .after⟩ =
      more.foldlM step (place frames (.object members)) := by
  rw [List.foldlM_cons, List.append_nil]
  simp [step, Reading.close]

theorem foldlM_step_opening {opening : Lexeme} {inner : List Lexeme} {frame : Frame} {phase : Phase}
    {d : Json} (hopen : step ⟨frames, .value⟩ opening = Reading.enter frames frame phase)
    (hfull : readBack? 0 d = none)
    (hinner : (inner ++ more).foldlM step ⟨frame :: frames, phase⟩ =
      (readBack? (greatestDepth - (frames.length + 1) + 1) d).bind fun w =>
        more.foldlM step (place frames w)) :
    (opening :: inner ++ more).foldlM step ⟨frames, .value⟩ =
      (readBack? (greatestDepth - frames.length) d).bind fun w =>
        more.foldlM step (place frames w) := by
  rw [List.cons_append, List.foldlM_cons, hopen, Reading.enter]
  split
  · have hroom : greatestDepth - frames.length = greatestDepth - (frames.length + 1) + 1 := by
      omega
    rw [hroom, ← hinner]
    rfl
  · have hroom : greatestDepth - frames.length = 0 := by omega
    rw [hroom, hfull]
    rfl

end Phases

mutual

theorem foldlM_step_lexemes : ∀ (d : Json) (frames : List Frame) (more : List Lexeme),
    (d.lexemes ++ more).foldlM step ⟨frames, .value⟩ =
      (readBack? (greatestDepth - frames.length) d).bind fun w =>
        more.foldlM step (place frames w)
  | .null, frames, more => by rw [lexemes, readBack?]; rfl
  | .bool b, frames, more => by rw [lexemes, readBack?]; cases b <;> rfl
  | .int n, frames, more => by rw [lexemes, readBack?]; exact foldlM_step_atom frames more _
  | .float x, frames, more => by rw [lexemes, readBack?]; exact foldlM_step_atom frames more _
  | .string s, frames, more => by rw [lexemes, readBack?]; rfl
  | .array items, frames, more => by
    rw [lexemes]
    refine foldlM_step_opening frames more rfl (by rw [readBack?]) ?_
    rw [readBack?, List.append_assoc]
    by_cases hitems : items = []
    · subst hitems
      rfl
    · rw [foldlM_step_firstItem _ _ hitems, foldlM_step_lexemesOfItems items hitems]
      cases readItems? (greatestDepth - (frames.length + 1)) items with
      | none => rfl
      | some ws => exact foldlM_step_closeArray frames more ws
  | .object members, frames, more => by
    rw [lexemes]
    refine foldlM_step_opening frames more rfl (by rw [readBack?]) ?_
    rw [readBack?, List.append_assoc]
    by_cases hmembers : members = []
    · subst hmembers
      rfl
    · rw [foldlM_step_firstMember _ _ hmembers, foldlM_step_lexemesOfMembers members hmembers]
      cases readMembers? (greatestDepth - (frames.length + 1)) members with
      | none => rfl
      | some ws => exact foldlM_step_closeObject frames more ws

theorem foldlM_step_lexemesOfItems : ∀ (items : List Json), items ≠ [] →
    ∀ (done : List Json) (frames : List Frame) (more : List Lexeme),
      (lexemesOfItems items ++ more).foldlM step ⟨.array done :: frames, .value⟩ =
        (readItems? (greatestDepth - (frames.length + 1)) items).bind fun ws =>
          more.foldlM step ⟨.array (ws.reverse ++ done) :: frames, .after⟩
  | [], h, _, _, _ => absurd rfl h
  | [d], _, done, frames, more => by
    rw [lexemesOfItems, foldlM_step_lexemes d, readItems?, readItems?, List.length_cons]
    cases readBack? (greatestDepth - (frames.length + 1)) d <;> rfl
  | d :: e :: ds, _, done, frames, more => by
    rw [lexemesOfItems_cons_cons, List.append_assoc, foldlM_step_lexemes d, readItems?,
      List.length_cons]
    cases readBack? (greatestDepth - (frames.length + 1)) d with
    | none => rfl
    | some w =>
      have hrest := foldlM_step_lexemesOfItems (e :: ds) (List.cons_ne_nil e ds) (w :: done)
        frames more
      have hcomma : (.comma :: lexemesOfItems (e :: ds) ++ more).foldlM step
          (place (.array done :: frames) w) =
            (lexemesOfItems (e :: ds) ++ more).foldlM step ⟨.array (w :: done) :: frames, .value⟩ :=
        rfl
      rw [Option.bind_some, hcomma, hrest]
      cases readItems? (greatestDepth - (frames.length + 1)) (e :: ds) with
      | none => rfl
      | some ws => simp

theorem foldlM_step_lexemesOfMembers : ∀ (members : List (String × Json)), members ≠ [] →
    ∀ (done : List (String × Json)) (name : String) (frames : List Frame) (more : List Lexeme),
      (lexemesOfMembers members ++ more).foldlM step ⟨.object done name :: frames, .member⟩ =
        (readMembers? (greatestDepth - (frames.length + 1)) members).bind fun ws =>
          more.foldlM step ⟨.object (ws.reverse ++ done) "" :: frames, .after⟩
  | [], h, _, _, _, _ => absurd rfl h
  | [(k, d)], _, done, name, frames, more => by
    have hname : (lexemesOfMembers [(k, d)] ++ more).foldlM step
        ⟨.object done name :: frames, .member⟩ =
          (d.lexemes ++ more).foldlM step ⟨.object done k :: frames, .value⟩ := by
      rw [lexemesOfMembers]
      rfl
    rw [hname, foldlM_step_lexemes d, readMembers?, readMembers?, List.length_cons]
    cases readBack? (greatestDepth - (frames.length + 1)) d <;> rfl
  | (k, d) :: m :: ms, _, done, name, frames, more => by
    have hname : (lexemesOfMembers ((k, d) :: m :: ms) ++ more).foldlM step
        ⟨.object done name :: frames, .member⟩ =
          (d.lexemes ++ (.comma :: lexemesOfMembers (m :: ms) ++ more)).foldlM step
            ⟨.object done k :: frames, .value⟩ := by
      rw [lexemesOfMembers_cons_cons, lexemesOfMembers, List.append_assoc]
      rfl
    rw [hname, foldlM_step_lexemes d, readMembers?, List.length_cons]
    cases readBack? (greatestDepth - (frames.length + 1)) d with
    | none => rfl
    | some w =>
      have hrest := foldlM_step_lexemesOfMembers (m :: ms) (List.cons_ne_nil m ms)
        ((k, w) :: done) "" frames more
      have hcomma : (.comma :: lexemesOfMembers (m :: ms) ++ more).foldlM step
          (place (.object done k :: frames) w) =
            (lexemesOfMembers (m :: ms) ++ more).foldlM step
              ⟨.object ((k, w) :: done) "" :: frames, .member⟩ := rfl
      rw [Option.bind_some, hcomma, hrest]
      cases readMembers? (greatestDepth - (frames.length + 1)) (m :: ms) with
      | none => rfl
      | some ws => simp

end

theorem ofText?_of_scans {s : String} {d : Json} (h : Lexeme.Scans s d.lexemes) :
    ofText? s = readBack? greatestDepth d := by
  have hread := foldlM_step_lexemes d [] []
  rw [List.append_nil] at hread
  rw [ofText?, Lexeme.ofText?_of_scans h]
  simp only [Option.bind_eq_bind, Option.bind_some]
  rw [hread]
  cases readBack? greatestDepth d <;> rfl

theorem ofText?_compact (d : Json) : ofText? d.compact = readBack? greatestDepth d :=
  ofText?_of_scans (scans_compact d)

theorem ofText?_prettyAt (depth : Nat) (d : Json) :
    ofText? (prettyAt depth d) = readBack? greatestDepth d :=
  ofText?_of_scans (scans_prettyAt depth d)

end ViewLayers.Json
