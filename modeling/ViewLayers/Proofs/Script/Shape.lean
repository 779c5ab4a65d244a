import Mathlib.Data.List.Forall2
import ViewLayers.Proofs.Json.Members
import ViewLayers.Proofs.Script.Blanking
import ViewLayers.Proofs.Script.Lines

/-!
# Shapes of procedures

The shape of a procedure is the procedure with every text emptied that a configuration can
choose. Its script has the lines of the procedure's script, at the same depths and with the
same code. So two procedures of one shape differ in nothing but what stands in literals.
-/

namespace ViewLayers

namespace Value

mutual

/-- A value with its texts and tags emptied; the keys stay. -/
def shape : Value → Value
  | .null => .null
  | .bool b => .bool b
  | .int n => .int n
  | .float x => .float x
  | .string _ => .string ""
  | .list items => .list (itemShapes items)
  | .record entries => .record (entryShapes entries)
  | .tagged _ v => .tagged "" (shape v)

def itemShapes : List Value → List Value
  | [] => []
  | v :: vs => shape v :: itemShapes vs

def entryShapes : List (Value × Value) → List (Value × Value)
  | [] => []
  | (k, v) :: es => (k, shape v) :: entryShapes es

end

end Value

def textShape (s : Option String) : Option String := s.map fun _ => ""

def Statement.shape : Statement → Statement
  | .captureResponse => .captureResponse
  | .selectTemplate name => .selectTemplate (textShape name)
  | .applyLayout layout mode => .applyLayout (textShape layout) mode
  | .setComponentSlot _ module action =>
    .setComponentSlot "" (textShape module) (textShape action)
  | .addHttpMeta _ _ => .addHttpMeta "" ""
  | .addMeta _ _ => .addMeta "" ""
  | .setEscapingMethod method => .setEscapingMethod method.shape
  | .addAsset kind asset => .addAsset kind ⟨"", "", Value.entryShapes asset.options⟩

def Branch.shape (b : Branch) : Branch := ⟨"", b.body.map Statement.shape⟩

def Dispatch.shape (d : Dispatch) : Dispatch :=
  ⟨d.subject, d.branches.map Branch.shape, d.fallback.map Statement.shape⟩

def Procedure.shape (p : Procedure) : Procedure :=
  ⟨p.generatedAt, p.prelude.map Statement.shape, p.templatePhase.shape, p.setupPhase.shape⟩

namespace Script

section Values

def SameMember (m n : String × Json) : Prop := m.1 = n.1 ∧ SameCode m.2.compact n.2.compact

theorem sameMember_insertMember (name : String) {v w : Json}
    (h : SameCode v.compact w.compact) {ms ns : List (String × Json)}
    (hs : List.Forall₂ SameMember ms ns) :
    List.Forall₂ SameMember (Json.insertMember name v ms) (Json.insertMember name w ns) :=
  Json.forall₂_insertMember (R := fun v w : Json => SameCode v.compact w.compact) hs name h

theorem sameCode_compactItems {vs ws : List Json}
    (h : List.Forall₂ (fun v w => SameCode v.compact w.compact) vs ws) :
    SameCode (Json.compactItems vs) (Json.compactItems ws) := by
  have hcomma : SameCode "," "," := .ofList (by decide)
  induction h with
  | nil => exact .ofList (by decide)
  | cons hvw hs ih =>
    cases hs with
    | nil => exact hvw
    | cons _ _ =>
      rw [Json.compactItems_cons_cons, Json.compactItems_cons_cons]
      exact (hvw.append hcomma).append ih

theorem sameCode_compactMembers {ms ns : List (String × Json)}
    (h : List.Forall₂ SameMember ms ns) :
    SameCode (Json.compactMembers ms) (Json.compactMembers ns) := by
  have hcomma : SameCode "," "," := .ofList (by decide)
  have hcolon : SameCode ":" ":" := .ofList (by decide)
  induction h with
  | nil => exact .ofList (by decide)
  | @cons m n _ _ hmn hs ih =>
    obtain ⟨a, v⟩ := m
    obtain ⟨b, w⟩ := n
    have hmember : SameCode (Json.quoted a ++ ":" ++ v.compact)
        (Json.quoted b ++ ":" ++ w.compact) :=
      ((sameCode_quoted a b).append hcolon).append hmn.2
    cases hs with
    | nil => exact hmember
    | cons _ _ =>
      rw [Json.compactMembers_cons_cons, Json.compactMembers_cons_cons]
      exact (hmember.append hcomma).append ih

theorem sameCode_object {ms ns : List (String × Json)} (h : List.Forall₂ SameMember ms ns) :
    SameCode (Json.object ms).compact (Json.object ns).compact := by
  have hopen : SameCode "\x7b" "\x7b" := .ofList (by decide)
  have hclose : SameCode "\x7d" "\x7d" := .ofList (by decide)
  rw [Json.compact, Json.compact]
  exact (hopen.append (sameCode_compactMembers h)).append hclose

theorem sameCode_ofFloat (x : Binary64) :
    SameCode (Json.ofFloat x).compact (Json.ofFloat x).compact := by
  unfold Json.ofFloat
  split_ifs
  · rw [Json.compact]
    exact (bare_of_isAtom (Json.isAtom_floatText x)).sameCode
  · rw [Json.compact]
    exact .ofList (by decide)

-- Entries go one by one into a sorted object, so the induction carries the members put so far.
mutual

theorem sameCode_ofValue :
    ∀ v : Value, SameCode (Json.ofValue v).compact (Json.ofValue v.shape).compact
  | .null => by
    rw [Value.shape, Json.ofValue, Json.compact]
    exact .ofList (by decide)
  | .bool b => by
    rw [Value.shape, Json.ofValue, Json.compact]
    exact (bare_of_isAtom (Json.isAtom_boolText b)).sameCode
  | .int n => by
    rw [Value.shape, Json.ofValue, Json.compact]
    exact (bare_of_isAtom (Json.isAtom_intText n)).sameCode
  | .float x => by
    rw [Value.shape, Json.ofValue]
    exact sameCode_ofFloat x
  | .string s => by
    rw [Value.shape, Json.ofValue, Json.ofValue, Json.compact, Json.compact]
    exact sameCode_quoted s ""
  | .list items => by
    have hopen : SameCode "[" "[" := .ofList (by decide)
    have hclose : SameCode "]" "]" := .ofList (by decide)
    rw [Value.shape, Json.ofValue, Json.ofValue, Json.compact, Json.compact]
    exact (hopen.append (sameCode_compactItems (sameCode_ofItems items))).append hclose
  | .record entries => by
    rw [Value.shape, Json.ofValue, Json.ofValue]
    exact sameCode_object (sameMember_insertEntries entries .nil)
  | .tagged _ v => by
    rw [Value.shape, Json.ofValue, Json.ofValue]
    exact sameCode_ofValue v

theorem sameCode_ofItems : ∀ vs : List Value,
    List.Forall₂ (fun v w => SameCode v.compact w.compact) (Json.ofItems vs)
      (Json.ofItems (Value.itemShapes vs))
  | [] => by
    rw [Value.itemShapes, Json.ofItems]
    exact .nil
  | v :: vs => by
    rw [Value.itemShapes, Json.ofItems, Json.ofItems]
    exact .cons (sameCode_ofValue v) (sameCode_ofItems vs)

theorem sameMember_insertEntries : ∀ (es : List (Value × Value)) {ms ns : List (String × Json)},
    List.Forall₂ SameMember ms ns →
      List.Forall₂ SameMember (Json.insertEntries ms es)
        (Json.insertEntries ns (Value.entryShapes es))
  | [], _, _, h => by
    rw [Value.entryShapes, Json.insertEntries, Json.insertEntries]
    exact h
  | (k, v) :: es, _, _, h => by
    rw [Value.entryShapes, Json.insertEntries, Json.insertEntries]
    exact sameMember_insertEntries es (sameMember_insertMember _ (sameCode_ofValue v) h)

end

theorem sameCode_recordLiteral (r : Record) :
    SameCode (recordLiteral r) (recordLiteral (Value.entryShapes r)) :=
  sameCode_object (sameMember_insertEntries r .nil)

theorem sameCode_valueLiteral :
    ∀ v : Value, SameCode (valueLiteral v) (valueLiteral v.shape)
  | .string s => by
    rw [Value.shape, valueLiteral, valueLiteral]
    exact sameCode_literal s ""
  | .tagged _ v => by
    rw [Value.shape, valueLiteral, valueLiteral]
    exact sameCode_valueLiteral v
  | .null => .ofList (by decide)
  | .bool b => sameCode_ofValue (.bool b)
  | .int n => sameCode_ofValue (.int n)
  | .float x => sameCode_ofValue (.float x)
  | .list items => by
    have h := sameCode_ofValue (.list items)
    rw [Value.shape] at h
    rw [Value.shape, valueLiteral, valueLiteral]
    exact h
  | .record entries => by
    have h := sameCode_ofValue (.record entries)
    rw [Value.shape] at h
    rw [Value.shape, valueLiteral, valueLiteral]
    exact h

end Values

section Lines

structure Line.Alike (l m : Line) : Prop where
  depth : l.depth = m.depth
  text : SameCode l.text m.text

theorem Line.Alike.indent {l m : Line} (h : l.Alike m) : l.indent.Alike m.indent :=
  ⟨congrArg (· + 1) h.depth, h.text⟩

theorem sameCode_optionalLiteral (s : Option String) :
    SameCode (optionalLiteral s) (optionalLiteral (textShape s)) := by
  cases s with
  | none => exact .ofList (by decide)
  | some s => exact sameCode_literal s ""

theorem sameCode_templateDefault (name : Option String) :
    SameCode (templateDefault name) (templateDefault (textShape name)) := by
  cases name with
  | none => exact .ofList (by decide)
  | some name => exact sameCode_literal name ""

theorem sameCode_decorator (layout : Option String) :
    SameCode (decorator layout) (decorator (textShape layout)) := by
  cases layout with
  | none => exact .ofList (by decide)
  | some name => exact (sameCode_literal name "").append (.ofList (by decide))

theorem sameCode_layoutGuard (mode : LayoutMode) :
    SameCode (layoutGuard mode) (layoutGuard mode) := by
  cases mode with
  | own => exact .ofList (by decide)
  | inherited => exact .append (.ofList (by decide +kernel)) (.ofList (by decide))

theorem sameCode_overrideStart : SameCode overrideStart overrideStart :=
  .ofList (by decide +kernel)

theorem sameCode_subjectText (subject : Subject) :
    SameCode (subjectText subject) (subjectText subject) := by
  cases subject with
  | actionView => exact .ofList (by decide)
  | templateView => exact .ofList (by decide)

theorem sameCode_assetMethod (kind : AssetKind) :
    SameCode (assetMethod kind) (assetMethod kind) := by
  cases kind with
  | stylesheet => exact .ofList (by decide)
  | javascript => exact .ofList (by decide)

theorem alike_statementLines (s : Statement) :
    List.Forall₂ Line.Alike (statementLines s) (statementLines s.shape) := by
  have hcomma : SameCode ", " ", " := .ofList (by decide)
  have hend : SameCode ");" ");" := .ofList (by decide)
  cases s with
  | captureResponse => exact .cons ⟨rfl, .ofList (by decide)⟩ .nil
  | selectTemplate name =>
    refine .cons ⟨rfl, ?_⟩ (.cons ⟨rfl, .ofList (by decide +kernel)⟩ .nil)
    have hstart : SameCode ("templateName = overrides.get(" ++ overrideStart)
        ("templateName = overrides.get(" ++ overrideStart) :=
      .append (.ofList (by decide)) sameCode_overrideStart
    exact .append (.append (hstart.append (.ofList (by decide))) (sameCode_templateDefault name))
      (.ofList (by decide))
  | applyLayout layout mode =>
    refine .cons ⟨rfl, ?_⟩ (.cons ⟨rfl, .ofList (by decide +kernel)⟩
      (.cons ⟨rfl, .ofList (by decide +kernel)⟩ (.cons ⟨rfl, sameCode_layoutGuard mode⟩
        (.cons ⟨rfl, ?_⟩ (.cons ⟨rfl, .ofList (by decide)⟩ .nil)))))
    · exact .append (.append (.ofList (by decide)) sameCode_overrideStart) (.ofList (by decide))
    · exact .append (.append (.ofList (by decide)) (sameCode_decorator layout)) hend
  | setComponentSlot name module action =>
    refine .cons ⟨rfl, ?_⟩ (.cons ⟨rfl, ?_⟩ .nil)
    · have hname : SameCode ("view.setComponentSlot(" ++ literal name)
          ("view.setComponentSlot(" ++ literal "") :=
        .append (.ofList (by decide)) (sameCode_literal name "")
      have hmodule := (hname.append hcomma).append (sameCode_optionalLiteral module)
      exact ((hmodule.append hcomma).append (sameCode_optionalLiteral action)).append hend
    · exact .append (.append (.ofList (by decide +kernel)) (sameCode_literal _ _)) hend
  | addHttpMeta name content =>
    refine .cons ⟨rfl, ?_⟩ .nil
    have hname : SameCode ("response.addHttpMeta(" ++ literal name)
        ("response.addHttpMeta(" ++ literal "") :=
      .append (.ofList (by decide)) (sameCode_literal name "")
    exact .append ((hname.append hcomma).append (sameCode_literal content ""))
      (.ofList (by decide))
  | addMeta name content =>
    refine .cons ⟨rfl, ?_⟩ .nil
    have hname : SameCode ("response.addMeta(" ++ literal name)
        ("response.addMeta(" ++ literal "") :=
      .append (.ofList (by decide)) (sameCode_literal name "")
    exact .append ((hname.append hcomma).append (sameCode_literal content ""))
      (.ofList (by decide))
  | setEscapingMethod method =>
    refine .cons ⟨rfl, ?_⟩ .nil
    exact .append (.append (.ofList (by decide)) (sameCode_valueLiteral method)) hend
  | addAsset kind asset =>
    refine .cons ⟨rfl, ?_⟩ .nil
    have hcall : SameCode ("response." ++ assetMethod kind ++ "(")
        ("response." ++ assetMethod kind ++ "(") :=
      .append (.append (.ofList (by decide)) (sameCode_assetMethod kind)) (.ofList (by decide))
    have hname := (hcall.append (sameCode_literal asset.name "")).append hcomma
    have hposition := (hname.append (sameCode_literal asset.position "")).append hcomma
    exact (hposition.append (sameCode_recordLiteral asset.options)).append hend

theorem alike_bodyLines (body : List Statement) :
    List.Forall₂ Line.Alike (bodyLines body) (bodyLines (body.map Statement.shape)) := by
  induction body with
  | nil => exact .nil
  | cons s body ih => exact List.rel_append (alike_statementLines s) ih

theorem alike_blockLines (body : List Statement) :
    List.Forall₂ Line.Alike (blockLines body) (blockLines (body.map Statement.shape)) :=
  List.rel_map (fun _ _ h => h.indent) (alike_bodyLines body)

theorem alike_branchLines (subject : Subject) {cs : List Char} (h : placeAfter .code cs = .code)
    (b : Branch) :
    List.Forall₂ Line.Alike (branchLines subject (String.ofList cs) b)
      (branchLines subject (String.ofList cs) b.shape) := by
  refine .cons ⟨rfl, ?_⟩ (alike_blockLines b.body)
  have hopen : SameCode (String.ofList cs ++ " (" ++ subjectText subject)
      (String.ofList cs ++ " (" ++ subjectText subject) :=
    .append (.append (.ofList h) (.ofList (by decide))) (sameCode_subjectText subject)
  exact .append (.append (hopen.append (.ofList (by decide))) (sameCode_literal b.view ""))
    (.ofList (by decide))

theorem alike_flatMap_branchLines (subject : Subject) {cs : List Char}
    (h : placeAfter .code cs = .code) (bs : List Branch) :
    List.Forall₂ Line.Alike (bs.flatMap (branchLines subject (String.ofList cs)))
      ((bs.map Branch.shape).flatMap (branchLines subject (String.ofList cs))) := by
  induction bs with
  | nil => exact .nil
  | cons b bs ih => exact List.rel_append (alike_branchLines subject h b) ih

theorem alike_dispatchLines (d : Dispatch) :
    List.Forall₂ Line.Alike (dispatchLines d) (dispatchLines d.shape) := by
  obtain ⟨subject, branches, fallback⟩ := d
  cases branches with
  | nil => exact alike_bodyLines fallback
  | cons first others =>
    have helse : Line.Alike ⟨0, "\x7d else \x7b"⟩ ⟨0, "\x7d else \x7b"⟩ :=
      ⟨rfl, .ofList (by decide)⟩
    have hend : Line.Alike ⟨0, "\x7d"⟩ ⟨0, "\x7d"⟩ := ⟨rfl, .ofList (by decide)⟩
    have hfirst : List.Forall₂ Line.Alike (branchLines subject "if" first)
        (branchLines subject "if" first.shape) := alike_branchLines subject (by decide) first
    have hothers : List.Forall₂ Line.Alike
        (others.flatMap (branchLines subject "\x7d else if"))
        ((others.map Branch.shape).flatMap (branchLines subject "\x7d else if")) :=
      alike_flatMap_branchLines subject (by decide) others
    exact List.rel_append (List.rel_append (List.rel_append hfirst hothers)
      (.cons helse (alike_blockLines fallback))) (.cons hend .nil)

theorem alike_procedureLines (p : Procedure) :
    List.Forall₂ Line.Alike (procedureLines p) (procedureLines p.shape) := by
  have hempty : Line.Alike ⟨0, ""⟩ ⟨0, ""⟩ := ⟨rfl, .ofList (by decide)⟩
  have hlet : Line.Alike ⟨0, "let templateName;"⟩ ⟨0, "let templateName;"⟩ :=
    ⟨rfl, .ofList (by decide)⟩
  have hheader : Line.Alike ⟨0, header⟩ ⟨0, header⟩ := ⟨rfl, .ofList (by decide)⟩
  have hdate : Line.Alike ⟨0, "// date: " ++ p.generatedAt.headerText⟩
      ⟨0, "// date: " ++ p.shape.generatedAt.headerText⟩ :=
    ⟨rfl, .append (.ofList (by decide)) (Moment.bare_headerText _).sameCode⟩
  have hprelude := List.rel_append (.cons hheader (.cons hdate .nil)) (alike_bodyLines p.prelude)
  have htemplate := List.rel_append (List.rel_append hprelude (.cons hlet (.cons hempty .nil)))
    (alike_dispatchLines p.templatePhase)
  exact List.rel_append (List.rel_append htemplate (.cons hempty .nil))
    (alike_dispatchLines p.setupPhase)

end Lines

section Whole

def endedLines (s : String) : List (List Char) := (s.toList.splitOn '\n').dropLast

def indentation (line : List Char) : Nat := (line.takeWhile (· = ' ')).length

theorem endedLines_render (p : Procedure) :
    endedLines (render p) = (procedureLines p).map Line.written := by
  rw [endedLines, splitOn_render, List.dropLast_concat]

theorem Line.Plain.indentation_written {l : Line} (h : l.Plain) :
    indentation l.written = 2 * l.depth := by
  have htext : l.text.toList.takeWhile (· = ' ') = [] := by
    cases hl : l.text.toList with
    | nil => rfl
    | cons c rest =>
      have hc : c ≠ ' ' := h.head_ne c (by rw [hl]; rfl)
      exact List.takeWhile_cons_of_neg (by simpa using hc)
  have hblanks : ∀ c ∈ List.replicate (2 * l.depth) ' ', decide (c = ' ') = true := by
    intro c hc
    rw [List.eq_of_mem_replicate hc]
    rfl
  rw [indentation, written, List.takeWhile_append_of_pos hblanks, htext, List.append_nil,
    List.length_replicate]

theorem map_indentation_endedLines (p : Procedure) :
    (endedLines (render p)).map indentation = (procedureLines p).map fun l => 2 * l.depth := by
  rw [endedLines_render, List.map_map]
  exact List.map_congr_left fun l hl => (plain_procedureLines p l hl).indentation_written

theorem map_depth_of_alike {ls ms : List Line} (h : List.Forall₂ Line.Alike ls ms) :
    (ls.map fun l => 2 * l.depth) = ms.map fun l => 2 * l.depth := by
  induction h with
  | nil => rfl
  | cons hlm _ ih => rw [List.map_cons, List.map_cons, hlm.depth, ih]

theorem Line.Alike.sameCode_chars {l m : Line} (h : l.Alike m) :
    SameCode (String.ofList l.chars) (String.ofList m.chars) := by
  have hblanks : SameCode (String.ofList (List.replicate (2 * m.depth) ' '))
      (String.ofList (List.replicate (2 * m.depth) ' ')) := by
    refine .ofList (placeAfter_of_bare ?_)
    intro c hc
    rw [List.eq_of_mem_replicate hc]
    decide
  have hfeed : SameCode (String.ofList ['\n']) (String.ofList ['\n']) := .ofList (by decide)
  rw [chars, chars, h.depth, String.ofList_append, String.ofList_append, String.ofList_append,
    String.ofList_append, String.ofList_toList, String.ofList_toList]
  exact (hblanks.append h.text).append hfeed

theorem sameCode_flatMap_chars {ls ms : List Line} (h : List.Forall₂ Line.Alike ls ms) :
    SameCode (String.ofList (ls.flatMap Line.chars)) (String.ofList (ms.flatMap Line.chars)) := by
  induction h with
  | nil => exact .ofList (by decide)
  | cons hlm _ ih =>
    rw [List.flatMap_cons, List.flatMap_cons, String.ofList_append, String.ofList_append]
    exact hlm.sameCode_chars.append ih

theorem render_shape (p : Procedure) :
    (endedLines (render p)).map indentation = (endedLines (render p.shape)).map indentation ∧
      blanked (render p) = blanked (render p.shape) := by
  have h := alike_procedureLines p
  refine ⟨?_, congrArg String.ofList (sameCode_flatMap_chars h).blank⟩
  rw [map_indentation_endedLines, map_indentation_endedLines, map_depth_of_alike h]

/-- The texts of a configuration change nothing of a script but what stands in literals. -/
theorem blanked_render_of_shape_eq {p q : Procedure} (h : p.shape = q.shape) :
    (endedLines (render p)).length = (endedLines (render q)).length ∧
      (endedLines (render p)).map indentation = (endedLines (render q)).map indentation ∧
      blanked (render p) = blanked (render q) := by
  obtain ⟨hindentation, hblanked⟩ := render_shape p
  obtain ⟨hindentation', hblanked'⟩ := render_shape q
  rw [← h] at hindentation' hblanked'
  have hlines := hindentation.trans hindentation'.symm
  have hlength := congrArg List.length hlines
  rw [List.length_map, List.length_map] at hlength
  exact ⟨hlength, hlines, hblanked.trans hblanked'.symm⟩

def procedureOf (text : String) : Procedure where
  generatedAt := ⟨2024, 1, 2, 3, 4, 5, 0⟩
  prelude := [.captureResponse]
  templatePhase :=
    ⟨.actionView, [⟨text, [.selectTemplate (some text), .applyLayout (some text) .inherited]⟩],
      [.selectTemplate none]⟩
  setupPhase :=
    ⟨.templateView, [⟨text, [.setComponentSlot text (some text) none, .addHttpMeta text text,
        .addMeta text text, .setEscapingMethod (.list [.string text, .int 3])]⟩],
      [.addAsset .stylesheet ⟨text, text, [(.string "media", .tagged "t" (.string text))]⟩]⟩

def hostileText : String := "'\"\\);\n\x7d else \x7b"

theorem blanked_render_procedureOf :
    (procedureOf "show").shape = (procedureOf hostileText).shape ∧
      procedureOf "show" ≠ procedureOf hostileText ∧
      (endedLines (render (procedureOf "show"))).length =
        (endedLines (render (procedureOf hostileText))).length ∧
      (endedLines (render (procedureOf "show"))).map indentation =
        (endedLines (render (procedureOf hostileText))).map indentation ∧
      blanked (render (procedureOf "show")) = blanked (render (procedureOf hostileText)) :=
  ⟨rfl, by decide +kernel, blanked_render_of_shape_eq rfl⟩

end Whole

end Script

end ViewLayers
