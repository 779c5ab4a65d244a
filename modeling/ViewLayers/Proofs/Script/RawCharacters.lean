import Mathlib.Data.List.Basic
import ViewLayers.Proofs.Json.Keys
import ViewLayers.Proofs.Script.Lines

/-!
# Raw characters of a script

Controls and the characters that end a line are raw in a script. A literal escapes all of them,
JSON only those below the blank. So a script has no raw characters but the ends of its lines and
those from the delete character on that stand in the texts of its JSON, be they values or names.
-/

namespace ViewLayers

namespace Json

mutual

def texts : Json → List String
  | .string s => [s]
  | .array items => textsOfItems items
  | .object members => textsOfMembers members
  | _ => []

def textsOfItems : List Json → List String
  | [] => []
  | v :: vs => texts v ++ textsOfItems vs

def textsOfMembers : List (String × Json) → List String
  | [] => []
  | (k, v) :: ms => k :: (texts v ++ textsOfMembers ms)

end

end Json

namespace Script

def documents : Statement → List Json
  | .setEscapingMethod method =>
    match method.untagged with
    | .string _ => []
    | _ => [Json.ofValue method]
  | .addAsset _ asset => [Json.ofRecord asset.options]
  | _ => []

def isRaw (c : Char) : Bool := Text.isControl c || c = '\u2028' || c = '\u2029'

def isKept (c : Char) : Bool := isRaw c && 0x7f ≤ c.toNat

def raws (s : String) : List Char := s.toList.filter isRaw

def keptOf (d : Json) : List Char := d.texts.flatMap fun t => t.toList.filter isKept

def keptIn (body : List Statement) : List Char := body.flatMap fun s => (documents s).flatMap keptOf

section Raws

@[simp] theorem raws_append (s t : String) : raws (s ++ t) = raws s ++ raws t := by
  rw [raws, String.toList_append, List.filter_append, ← raws, ← raws]

theorem raws_append_left {s : String} (h : raws s = []) (t : String) : raws (s ++ t) = raws t := by
  rw [raws_append, h, List.nil_append]

theorem raws_append_right {t : String} (h : raws t = []) (s : String) : raws (s ++ t) = raws s := by
  rw [raws_append, h, List.append_nil]

theorem raws_eq_nil_iff {s : String} : raws s = [] ↔ ∀ c ∈ s.toList, isRaw c = false := by
  simp [raws, List.filter_eq_nil_iff]

theorem raws_append_eq_nil_iff {s t : String} : raws (s ++ t) = [] ↔ raws s = [] ∧ raws t = [] := by
  rw [raws_append, List.append_eq_nil_iff]

theorem raws_ofList {cs : List Char} (h : (cs.all fun c => !isRaw c) = true) :
    raws (String.ofList cs) = [] := by
  rw [raws_eq_nil_iff, String.toList_ofList]
  intro c hc
  simpa using List.all_eq_true.1 h c hc

theorem isRaw_of_ascii {c : Char} (h : 0x20 ≤ c.toNat ∧ c.toNat < 0x7f) : isRaw c = false := by
  have hline : c ≠ '\u2028' ∧ c ≠ '\u2029' := by
    constructor <;>
      · rintro rfl
        exact absurd h.2 (by decide)
  simp [isRaw, Text.isControl, hline, not_lt.2 h.1, h.2]

theorem raws_of_isAtom {s : String} (h : Json.IsAtom s) : raws s = [] :=
  raws_eq_nil_iff.2 fun c hc =>
    isRaw_of_ascii ((Json.ascii_of_isAtomLetter (h c hc)).imp_left le_of_lt)

theorem filter_isRaw_unicode (n : Nat) :
    ('\\' :: 'u' :: Json.hexDigits 4 n).filter isRaw = [] := by
  have hdigit : ∀ d < 16, isRaw (Nat.digitChar d) = false := by decide
  refine List.filter_eq_nil_iff.2 fun c hc => ?_
  rcases List.mem_cons.1 hc with rfl | hc
  · decide
  rcases List.mem_cons.1 hc with rfl | hc
  · decide
  obtain ⟨d, hd, rfl⟩ := exists_of_mem_hexDigits hc
  rw [hdigit d hd]
  exact Bool.false_ne_true

theorem filter_isRaw_escapedChar (c : Char) : (escapedChar c).filter isRaw = [] := by
  unfold escapedChar
  split_ifs with _ _ _ _ _ hraw
  · decide
  · decide
  · decide
  · decide
  · decide
  · exact filter_isRaw_unicode c.toNat
  · simpa [isRaw] using hraw

@[simp] theorem raws_literal (s : String) : raws (literal s) = [] := by
  have hbody : (s.toList.flatMap escapedChar).filter isRaw = [] := by
    rw [List.filter_flatMap, List.flatMap_eq_nil_iff]
    exact fun c _ => filter_isRaw_escapedChar c
  have hquote : ['\''].filter isRaw = [] := by decide
  rw [raws, toList_literal, encode, ← List.singleton_append, List.filter_append,
    List.filter_append, hbody, hquote]
  rfl

@[simp] theorem raws_optionalLiteral (s : Option String) : raws (optionalLiteral s) = [] := by
  cases s with
  | none => exact raws_ofList (by decide)
  | some s => exact raws_literal s

theorem jsonEscapedChar_of_isKept {c : Char} (h : isKept c = true) : Json.escapedChar c = [c] := by
  simp only [isKept, Bool.and_eq_true, decide_eq_true_eq] at h
  have hlow : ¬ c.toNat < 0x20 := by omega
  have hne : ∀ d : Char, d.toNat < 0x7f → c ≠ d := by
    rintro d hd rfl
    omega
  simp [Json.escapedChar, hlow, hne]

theorem filter_isRaw_of_not_isKept {c : Char} (h : isKept c = false) :
    (Json.escapedChar c).filter isRaw = [] := by
  unfold Json.escapedChar
  split_ifs with _ _ _ _ _ _ _ hlow
  · decide
  · decide
  · decide
  · decide
  · decide
  · decide
  · decide
  · exact filter_isRaw_unicode c.toNat
  · have hraw : isRaw c = false := by
      cases hraw : isRaw c with
      | false => rfl
      | true =>
        have hascii : c.toNat < 0x7f := by simpa [isKept, hraw] using h
        rw [← hraw, isRaw_of_ascii ⟨not_lt.1 hlow, hascii⟩]
    simp [hraw]

theorem filter_isRaw_jsonEscapedChar (c : Char) :
    (Json.escapedChar c).filter isRaw = if isKept c then [c] else [] := by
  cases h : isKept c with
  | true =>
    have hraw : isRaw c = true := (Bool.and_eq_true_iff.1 h).1
    rw [jsonEscapedChar_of_isKept h, List.filter_cons, hraw]
    rfl
  | false => exact filter_isRaw_of_not_isKept h

theorem filter_isRaw_flatMap_jsonEscapedChar (cs : List Char) :
    (cs.flatMap Json.escapedChar).filter isRaw = cs.filter isKept := by
  induction cs with
  | nil => rfl
  | cons c cs ih =>
    rw [List.flatMap_cons, List.filter_append, ih, filter_isRaw_jsonEscapedChar, List.filter_cons]
    split <;> rfl

@[simp] theorem raws_quoted (s : String) : raws (Json.quoted s) = s.toList.filter isKept := by
  have hquote : ['"'].filter isRaw = [] := by decide
  rw [raws, Json.quoted, String.toList_ofList, ← List.singleton_append, List.filter_append,
    List.filter_append, filter_isRaw_flatMap_jsonEscapedChar, hquote, List.nil_append,
    List.append_nil]

mutual

theorem raws_compact : ∀ d : Json, raws d.compact = keptOf d
  | .null => by rw [Json.compact]; exact raws_ofList (by decide)
  | .bool b => by rw [Json.compact]; exact raws_of_isAtom (Json.isAtom_boolText b)
  | .int n => by rw [Json.compact]; exact raws_of_isAtom (Json.isAtom_intText n)
  | .float x => by rw [Json.compact]; exact raws_of_isAtom (Json.isAtom_floatText x)
  | .string s => by
    rw [Json.compact, raws_quoted, keptOf, Json.texts, List.flatMap_singleton]
  | .array items => by
    rw [Json.compact, raws_append_right (t := "]") rfl, raws_append_left (s := "[") rfl,
      raws_compactItems items, keptOf, Json.texts]
  | .object members => by
    rw [Json.compact, raws_append_right (t := "\x7d") rfl, raws_append_left (s := "\x7b") rfl,
      raws_compactMembers members, keptOf, Json.texts]

theorem raws_compactItems : ∀ vs : List Json,
    raws (Json.compactItems vs) = (Json.textsOfItems vs).flatMap fun t => t.toList.filter isKept
  | [] => by rw [Json.compactItems]; exact raws_ofList (by decide)
  | [v] => by
    rw [Json.compactItems, raws_compact v, Json.textsOfItems, Json.textsOfItems, List.append_nil,
      keptOf]
  | v :: w :: vs => by
    rw [Json.compactItems_cons_cons, raws_append, raws_append_right (t := ",") rfl, raws_compact v,
      raws_compactItems (w :: vs), keptOf, ← List.flatMap_append, ← Json.textsOfItems]

theorem raws_compactMembers : ∀ ms : List (String × Json),
    raws (Json.compactMembers ms) =
      (Json.textsOfMembers ms).flatMap fun t => t.toList.filter isKept
  | [] => by rw [Json.compactMembers]; exact raws_ofList (by decide)
  | [(k, v)] => by
    rw [Json.compactMembers, raws_append, raws_append_right (t := ":") rfl, raws_quoted,
      raws_compact v, Json.textsOfMembers, Json.textsOfMembers, List.append_nil,
      List.flatMap_cons, keptOf]
  | (k, v) :: m :: ms => by
    have htexts : Json.textsOfMembers ((k, v) :: m :: ms) =
        k :: (v.texts ++ Json.textsOfMembers (m :: ms)) := by rw [Json.textsOfMembers]
    rw [Json.compactMembers_cons_cons, raws_append, raws_append_right (t := ",") rfl, raws_append,
      raws_append_right (t := ":") rfl, raws_quoted, raws_compact v, raws_compactMembers (m :: ms),
      htexts, List.flatMap_cons, List.flatMap_append, keptOf, List.append_assoc]

end

theorem raws_recordLiteral (r : Record) : raws (recordLiteral r) = keptOf (Json.ofRecord r) :=
  raws_compact (Json.ofRecord r)

theorem raws_valueLiteral (v : Value) :
    raws (valueLiteral v) = (documents (.setEscapingMethod v)).flatMap keptOf := by
  induction v using Value.untagged.induct with
  | case1 tag v ih =>
    rw [valueLiteral, ih]
    simp only [documents, Value.untagged, Json.ofValue]
  | case2 v hv =>
    cases v with
    | tagged tag v => exact absurd rfl (hv tag v)
    | string s => rw [valueLiteral, raws_literal]; rfl
    | null => rw [valueLiteral]; exact raws_ofList (by decide)
    | _ =>
      rw [valueLiteral, raws_compact]
      simp only [documents, Value.untagged, List.flatMap_singleton]

end Raws

def rawsOf (ls : List Line) : List Char := ls.flatMap fun l => raws l.text

section Lines

@[simp] theorem rawsOf_append (ls ms : List Line) : rawsOf (ls ++ ms) = rawsOf ls ++ rawsOf ms :=
  List.flatMap_append

@[simp] theorem rawsOf_flush (texts : List String) : rawsOf (flush texts) = texts.flatMap raws := by
  rw [rawsOf, flush, List.flatMap_map]

@[simp] theorem raws_templateDefault (name : Option String) : raws (templateDefault name) = [] := by
  cases name with
  | none => exact raws_ofList (by decide)
  | some name => exact raws_literal name

@[simp] theorem raws_decorator (layout : Option String) : raws (decorator layout) = [] := by
  cases layout with
  | none => exact raws_ofList (by decide)
  | some name => exact raws_append_eq_nil_iff.2 ⟨raws_literal name, raws_ofList (by decide)⟩

@[simp] theorem raws_layoutGuard (mode : LayoutMode) : raws (layoutGuard mode) = [] := by
  cases mode with
  | own => exact raws_ofList (by decide)
  | inherited =>
    exact raws_append_eq_nil_iff.2 ⟨raws_ofList (by decide), raws_ofList (by decide)⟩

@[simp] theorem raws_overrideStart : raws overrideStart = [] := raws_ofList (by decide)

@[simp] theorem raws_assetMethod (kind : AssetKind) : raws (assetMethod kind) = [] := by
  cases kind <;> exact raws_ofList (by decide)

@[simp] theorem raws_subjectText (subject : Subject) : raws (subjectText subject) = [] := by
  cases subject <;> exact raws_ofList (by decide)

theorem rawsOf_statementLines (s : Statement) :
    rawsOf (statementLines s) = (documents s).flatMap keptOf := by
  have hcomma : raws ", " = [] := raws_ofList (by decide)
  have hend : raws ");" = [] := raws_ofList (by decide)
  cases s with
  | captureResponse =>
    rw [statementLines, rawsOf_flush, List.flatMap_singleton]
    exact raws_ofList (by decide)
  | selectTemplate name =>
    have hget : raws "templateName = overrides.get(" = [] := raws_ofList (by decide)
    have hkey : raws "'_template') ?? " = [] := raws_ofList (by decide)
    have hsemicolon : raws ";" = [] := raws_ofList (by decide)
    have hset : raws "view.setTemplate(templateName + view.viewName + view.extension());" = [] :=
      raws_ofList (by decide)
    simp only [statementLines, rawsOf_flush, List.flatMap_cons, raws_append, raws_overrideStart,
      raws_templateDefault, hget, hkey, hsemicolon, hset]
    rfl
  | applyLayout layout mode =>
    have hget : raws "const layout = overrides.get(" = [] := raws_ofList (by decide)
    have hkey : raws "'_layout');" = [] := raws_ofList (by decide)
    have hif : raws "if (layout !== null && layout !== undefined) \x7b" = [] :=
      raws_ofList (by decide)
    have hset : raws
        "view.setDecoratorTemplate(layout === false ? false : layout + view.extension());" = [] :=
      raws_ofList (by decide)
    have hdecorate : raws "view.setDecoratorTemplate(" = [] := raws_ofList (by decide)
    have hclose : raws "\x7d" = [] := raws_ofList (by decide)
    simp only [statementLines, rawsOf, List.flatMap_cons, raws_append, raws_overrideStart,
      raws_layoutGuard, raws_decorator, hget, hkey, hif, hset, hdecorate, hend, hclose]
    rfl
  | setComponentSlot name module action =>
    have hslot : raws "view.setComponentSlot(" = [] := raws_ofList (by decide)
    have hlog : raws "if (settings.get('logging_enabled')) view.log(" = [] :=
      raws_ofList (by decide)
    simp only [statementLines, rawsOf_flush, List.flatMap_cons, raws_append, raws_literal,
      raws_optionalLiteral, hslot, hlog, hcomma, hend]
    rfl
  | addHttpMeta name content =>
    have hopen : raws "response.addHttpMeta(" = [] := raws_ofList (by decide)
    have htail : raws ", false);" = [] := raws_ofList (by decide)
    simp only [statementLines, rawsOf_flush, List.flatMap_cons, raws_append, raws_literal, hopen,
      hcomma, htail]
    rfl
  | addMeta name content =>
    have hopen : raws "response.addMeta(" = [] := raws_ofList (by decide)
    have htail : raws ", false, false);" = [] := raws_ofList (by decide)
    simp only [statementLines, rawsOf_flush, List.flatMap_cons, raws_append, raws_literal, hopen,
      hcomma, htail]
    rfl
  | setEscapingMethod method =>
    have hopen : raws "view.setEscapingMethod(" = [] := raws_ofList (by decide)
    rw [statementLines, rawsOf_flush, List.flatMap_singleton, raws_append_right hend,
      raws_append_left hopen, raws_valueLiteral]
  | addAsset kind asset =>
    have hresponse : raws "response." = [] := raws_ofList (by decide)
    have hparen : raws "(" = [] := raws_ofList (by decide)
    have hopen : raws ("response." ++ assetMethod kind ++ "(" ++ literal asset.name ++ ", "
        ++ literal asset.position ++ ", ") = [] := by
      simp only [raws_append_eq_nil_iff, raws_literal, raws_assetMethod, hresponse, hparen, hcomma,
        and_self]
    rw [statementLines, rawsOf_flush, List.flatMap_singleton, raws_append_right hend,
      raws_append_left hopen, raws_recordLiteral, documents, List.flatMap_singleton]

theorem rawsOf_bodyLines (body : List Statement) :
    rawsOf (bodyLines body) = keptIn body := by
  rw [rawsOf, bodyLines, List.flatMap_assoc]
  exact congrArg (body.flatMap ·) (funext rawsOf_statementLines)

theorem rawsOf_blockLines (body : List Statement) :
    rawsOf (blockLines body) = keptIn body := by
  rw [← rawsOf_bodyLines, rawsOf, blockLines, List.flatMap_map]
  rfl

theorem rawsOf_branchLines {opening : String} (hopening : raws opening = []) (subject : Subject)
    (b : Branch) : rawsOf (branchLines subject opening b) = keptIn b.body := by
  have hhead : raws (opening ++ " (" ++ subjectText subject ++ " === " ++ literal b.view
      ++ ") \x7b") = [] := by
    have hparen : raws " (" = [] := raws_ofList (by decide)
    have hequal : raws " === " = [] := raws_ofList (by decide)
    have hend : raws ") \x7b" = [] := raws_ofList (by decide)
    simp only [raws_append_eq_nil_iff, raws_literal, raws_subjectText, hopening, hparen, hequal,
      hend, and_self]
  rw [← rawsOf_blockLines, branchLines, rawsOf, List.flatMap_cons, hhead, List.nil_append, rawsOf]

theorem rawsOf_dispatchLines (d : Dispatch) :
    rawsOf (dispatchLines d) = keptIn d.statements := by
  obtain ⟨subject, branches, fallback⟩ := d
  rw [Dispatch.statements, keptIn, List.flatMap_append, List.flatMap_assoc]
  cases branches with
  | nil => exact rawsOf_bodyLines fallback
  | cons first others =>
    have hfirst : rawsOf (branchLines subject "if" first) = keptIn first.body :=
      rawsOf_branchLines (raws_ofList (by decide)) subject first
    have hothers : rawsOf (others.flatMap (branchLines subject "\x7d else if")) =
        others.flatMap fun b => keptIn b.body := by
      rw [rawsOf, List.flatMap_assoc]
      exact congrArg (others.flatMap ·)
        (funext (rawsOf_branchLines (raws_ofList (by decide)) subject))
    have helse : rawsOf (⟨0, "\x7d else \x7b"⟩ :: blockLines fallback) = keptIn fallback :=
      rawsOf_blockLines fallback
    have hend : rawsOf [⟨0, "\x7d"⟩] = [] := rfl
    rw [dispatchLines, rawsOf_append, rawsOf_append, rawsOf_append, hfirst, hothers, helse, hend,
      List.append_nil]
    rfl

@[simp] theorem raws_headerText (m : Moment) : raws m.headerText = [] := by
  have hyear := raws_of_isAtom (Moment.isAtom_yearText m.year)
  have hpadded : ∀ n, raws (Moment.padded 2 n) = [] :=
    fun n => raws_of_isAtom (Moment.isAtom_padded 2 n)
  simp only [Moment.headerText, Moment.clockText, raws_append, hyear, hpadded]
  rfl

theorem rawsOf_procedureLines (p : Procedure) :
    rawsOf (procedureLines p) = keptIn p.statements := by
  have hhead : rawsOf (flush [header, "// date: " ++ p.generatedAt.headerText]) = [] := by
    have hheader : raws header = [] := raws_ofList (by decide)
    have hdate : raws "// date: " = [] := raws_ofList (by decide)
    rw [rawsOf_flush, List.flatMap_cons, List.flatMap_singleton, hheader, raws_append_left hdate,
      raws_headerText, List.nil_append]
  have hlet : rawsOf (flush ["let templateName;", ""]) = [] := rfl
  have hblank : rawsOf (flush [""]) = [] := rfl
  simp only [procedureLines, rawsOf_append, hhead, hlet, hblank, rawsOf_bodyLines,
    rawsOf_dispatchLines, List.nil_append, List.append_nil, Procedure.statements, keptIn,
    List.flatMap_append]

def isStray (c : Char) : Bool := isRaw c && c != '\n'

theorem filter_isStray_chars {l : Line} (h : l.Plain) : l.chars.filter isStray = raws l.text := by
  have hblank : (List.replicate (2 * l.depth) ' ').filter isStray = [] := by
    refine List.filter_eq_nil_iff.2 fun c hc => ?_
    rw [List.eq_of_mem_replicate hc]
    decide
  have htext : l.text.toList.filter isStray = raws l.text := by
    refine List.filter_congr fun c hc => ?_
    have hne : c ≠ '\n' := fun heq => h.oneLine.lineFeed_notMem (heq ▸ hc)
    simp [isStray, hne]
  have hend : ['\n'].filter isStray = [] := by decide
  rw [Line.chars, List.filter_append, List.filter_append, hblank, htext, hend, List.nil_append,
    List.append_nil]

theorem filter_isStray_flatMap_chars {ls : List Line} (h : ∀ l ∈ ls, l.Plain) :
    (ls.flatMap Line.chars).filter isStray = rawsOf ls := by
  rw [List.filter_flatMap, rawsOf]
  exact List.flatMap_congr fun l hl => filter_isStray_chars (h l hl)

end Lines

theorem filter_isStray_toList_render (p : Procedure) :
    (render p).toList.filter isStray = keptIn p.statements := by
  rw [toList_render, filter_isStray_flatMap_chars (plain_procedureLines p), rawsOf_procedureLines]

/-- A line feed ends every line of a script. Its other raw characters are those from the delete
character on in the texts that its statements show as JSON, all of them in their order. -/
theorem filter_isStray_render (p : Procedure) :
    (render p).toList.splitOn '\n' = (procedureLines p).map Line.written ++ [[]] ∧
      (render p).toList.filter isStray = keptIn p.statements ∧
      ((∀ c ∈ (render p).toList, isStray c = false) ↔
        ∀ s ∈ p.statements, ∀ d ∈ documents s, ∀ t ∈ d.texts, ∀ c ∈ t.toList,
          isKept c = false) := by
  refine ⟨splitOn_render p, filter_isStray_toList_render p, ?_⟩
  simp only [← Bool.not_eq_true]
  rw [← List.filter_eq_nil_iff, filter_isStray_toList_render]
  simp only [keptIn, keptOf, List.flatMap_eq_nil_iff, List.filter_eq_nil_iff]

def separatedTitle : ViewTree :=
  ⟨[("all", [(.string "stylesheets",
    .list [.record [(.string "main", .record [(.string "title", .string "a\u2028b")])]])])]⟩

theorem filter_isStray_separatedTitle :
    (render (separatedTitle.procedure default)).toList.filter isStray = ['\u2028'] ∧
      ¬ ∀ p : Procedure, ∀ c ∈ (render p).toList, isStray c = false := by
  have hstray : (render (separatedTitle.procedure default)).toList.filter isStray =
      ['\u2028'] := by
    rw [filter_isStray_toList_render]
    decide +kernel
  have hmem : '\u2028' ∈ (render (separatedTitle.procedure default)).toList := by
    have hfilter := List.mem_singleton_self '\u2028'
    rw [← hstray] at hfilter
    exact List.mem_of_mem_filter hfilter
  refine ⟨hstray, fun h => ?_⟩
  exact absurd (h _ _ hmem) (by decide)

end Script

end ViewLayers
