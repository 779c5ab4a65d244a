import Mathlib.Data.List.Basic
import ViewLayers.Proofs.Script.Lines

/-!
# Unique reading of scripts

Two procedures have the same script exactly if they say the same. Every statement is told by
the start of its first line, its texts end where their literals end, and the lines of a branch
lie deeper than the lines that open and close it. So no text of a configuration can stand in
for a statement or hide one.
-/

namespace ViewLayers

open Script

/-- Statements that say the same: a method is known by its literal, options by their JSON. -/
def Statement.Alike : Statement → Statement → Prop
  | .setEscapingMethod m, .setEscapingMethod n => valueLiteral m = valueLiteral n
  | .addAsset k a, .addAsset l b =>
    k = l ∧ a.name = b.name ∧ a.position = b.position ∧
      recordLiteral a.options = recordLiteral b.options
  | s, t => s = t

structure Branch.Alike (b c : Branch) : Prop where
  view : b.view = c.view
  body : List.Forall₂ Statement.Alike b.body c.body

/-- A phase without branches does not show what it would compare. -/
structure Dispatch.Alike (d e : Dispatch) : Prop where
  subject : d.branches ≠ [] → d.subject = e.subject
  branches : List.Forall₂ Branch.Alike d.branches e.branches
  fallback : List.Forall₂ Statement.Alike d.fallback e.fallback

structure Procedure.Alike (p q : Procedure) : Prop where
  generatedAt : p.generatedAt.wholeSecond = q.generatedAt.wholeSecond
  prelude : List.Forall₂ Statement.Alike p.prelude q.prelude
  templatePhase : p.templatePhase.Alike q.templatePhase
  setupPhase : p.setupPhase.Alike q.setupPhase

namespace Script

section Texts

variable {x y : String}

theorem comparable_of_ofList_append {as bs : List Char}
    (h : String.ofList as ++ x = String.ofList bs ++ y) : as <+: bs ∨ bs <+: as := by
  have hlist := congrArg String.toList h
  simp only [String.toList_append, String.toList_ofList] at hlist
  exact List.prefix_or_prefix_of_prefix ⟨x.toList, rfl⟩ ⟨y.toList, hlist.symm⟩

theorem templateDefault_append_inj {m n : Option String}
    (h : templateDefault m ++ x = templateDefault n ++ y) : m = n ∧ x = y := by
  cases m with
  | none =>
    cases n with
    | none => exact ⟨rfl, (String.append_right_inj _).1 h⟩
    | some n => exact absurd h.symm (literal_append_ne n (by decide))
  | some m =>
    cases n with
    | none => exact absurd h (literal_append_ne m (by decide))
    | some n =>
      obtain ⟨hmn, hxy⟩ := literal_append_inj h
      exact ⟨congrArg some hmn, hxy⟩

theorem decorator_append_inj {m n : Option String}
    (h : decorator m ++ x = decorator n ++ y) : m = n ∧ x = y := by
  cases m with
  | none =>
    cases n with
    | none => exact ⟨rfl, (String.append_right_inj _).1 h⟩
    | some n =>
      rw [decorator, decorator, String.append_assoc] at h
      exact absurd h.symm (literal_append_ne n (by decide))
  | some m =>
    cases n with
    | none =>
      rw [decorator, decorator, String.append_assoc] at h
      exact absurd h (literal_append_ne m (by decide))
    | some n =>
      rw [decorator, decorator, String.append_assoc, String.append_assoc] at h
      obtain ⟨hmn, hxy⟩ := literal_append_inj h
      exact ⟨congrArg some hmn, (String.append_right_inj _).1 hxy⟩

theorem subjectText_append_inj {s t : Subject}
    (h : subjectText s ++ x = subjectText t ++ y) : s = t ∧ x = y := by
  cases s with
  | actionView =>
    cases t with
    | actionView => exact ⟨rfl, (String.append_right_inj _).1 h⟩
    | templateView => exact absurd (comparable_of_ofList_append h) (by decide)
  | templateView =>
    cases t with
    | actionView => exact absurd (comparable_of_ofList_append h) (by decide)
    | templateView => exact ⟨rfl, (String.append_right_inj _).1 h⟩

theorem layoutGuard_inj {m n : LayoutMode} (h : layoutGuard m = layoutGuard n) : m = n := by
  cases m with
  | own =>
    cases n with
    | own => rfl
    | inherited => exact absurd h (by decide)
  | inherited =>
    cases n with
    | own => exact absurd h (by decide)
    | inherited => rfl

end Texts

def opening : Statement → String
  | .captureResponse => "const response = view.response();"
  | .selectTemplate _ => "templateName = overrides.get("
  | .applyLayout _ _ => "const layout = overrides.get("
  | .setComponentSlot _ _ _ => "view.setComponentSlot("
  | .addHttpMeta _ _ => "response.addHttpMeta("
  | .addMeta _ _ => "response.addMeta("
  | .setEscapingMethod _ => "view.setEscapingMethod("
  | .addAsset .stylesheet _ => "response.addStylesheet"
  | .addAsset .javascript _ => "response.addJavascript"

theorem head?_statementLines (s : Statement) :
    ∃ rest, (statementLines s).head? = some ⟨0, opening s ++ rest⟩ := by
  cases s with
  | captureResponse => exact ⟨"", rfl⟩
  | selectTemplate name =>
    exact ⟨overrideStart ++ ("'_template') ?? " ++ (templateDefault name ++ ";")),
      by simp only [statementLines, flush, List.map_cons, List.head?_cons, opening,
        String.append_assoc]⟩
  | applyLayout layout mode =>
    exact ⟨overrideStart ++ "'_layout');",
      by simp only [statementLines, List.head?_cons, opening, String.append_assoc]⟩
  | setComponentSlot name module action =>
    exact ⟨literal name ++ (", " ++ (optionalLiteral module ++ (", " ++
        (optionalLiteral action ++ ");")))),
      by simp only [statementLines, flush, List.map_cons, List.head?_cons, opening,
        String.append_assoc]⟩
  | addHttpMeta name content =>
    exact ⟨literal name ++ (", " ++ (literal content ++ ", false);")),
      by simp only [statementLines, flush, List.map_cons, List.head?_cons, opening,
        String.append_assoc]⟩
  | addMeta name content =>
    exact ⟨literal name ++ (", " ++ (literal content ++ ", false, false);")),
      by simp only [statementLines, flush, List.map_cons, List.head?_cons, opening,
        String.append_assoc]⟩
  | setEscapingMethod method =>
    exact ⟨valueLiteral method ++ ");",
      by simp only [statementLines, flush, List.map_cons, List.head?_cons, opening,
        String.append_assoc]⟩
  | addAsset kind asset =>
    refine ⟨"(" ++ (literal asset.name ++ (", " ++ (literal asset.position ++ (", " ++
        (recordLiteral asset.options ++ ");"))))), ?_⟩
    have hopening : opening (.addAsset kind asset) = "response." ++ assetMethod kind := by
      cases kind <;> rfl
    simp only [statementLines, flush, List.map_cons, List.head?_cons, hopening,
      String.append_assoc]

theorem opening_eq_of_append_eq {s t : Statement} {x y : List Line}
    (h : statementLines s ++ x = statementLines t ++ y) :
    ∃ a b, opening s ++ a = opening t ++ b := by
  obtain ⟨a, ha⟩ := head?_statementLines s
  obtain ⟨b, hb⟩ := head?_statementLines t
  have hhead := congrArg List.head? h
  rw [List.head?_append, List.head?_append, ha, hb, Option.some_or, Option.some_or,
    Option.some.injEq, Line.mk.injEq] at hhead
  exact ⟨a, b, hhead.2⟩

inductive SameForm : Statement → Statement → Prop where
  | captureResponse : SameForm .captureResponse .captureResponse
  | selectTemplate (m n) : SameForm (.selectTemplate m) (.selectTemplate n)
  | applyLayout (m mode n mode') : SameForm (.applyLayout m mode) (.applyLayout n mode')
  | setComponentSlot (m module action n module' action') :
    SameForm (.setComponentSlot m module action) (.setComponentSlot n module' action')
  | addHttpMeta (m content n content') :
    SameForm (.addHttpMeta m content) (.addHttpMeta n content')
  | addMeta (m content n content') : SameForm (.addMeta m content) (.addMeta n content')
  | setEscapingMethod (m n) : SameForm (.setEscapingMethod m) (.setEscapingMethod n)
  | addAsset (kind a b) : SameForm (.addAsset kind a) (.addAsset kind b)

theorem sameForm_of_opening {s t : Statement} {x y : String}
    (h : opening s ++ x = opening t ++ y) :
    SameForm s t := by
  cases s with
  | captureResponse =>
    cases t with
    | captureResponse => exact .captureResponse
    | addAsset kind _ => cases kind <;> exact absurd (comparable_of_ofList_append h) (by decide)
    | _ => exact absurd (comparable_of_ofList_append h) (by decide)
  | selectTemplate =>
    cases t with
    | selectTemplate => exact .selectTemplate ..
    | addAsset kind _ => cases kind <;> exact absurd (comparable_of_ofList_append h) (by decide)
    | _ => exact absurd (comparable_of_ofList_append h) (by decide)
  | applyLayout =>
    cases t with
    | applyLayout => exact .applyLayout ..
    | addAsset kind _ => cases kind <;> exact absurd (comparable_of_ofList_append h) (by decide)
    | _ => exact absurd (comparable_of_ofList_append h) (by decide)
  | setComponentSlot =>
    cases t with
    | setComponentSlot => exact .setComponentSlot ..
    | addAsset kind _ => cases kind <;> exact absurd (comparable_of_ofList_append h) (by decide)
    | _ => exact absurd (comparable_of_ofList_append h) (by decide)
  | addHttpMeta =>
    cases t with
    | addHttpMeta => exact .addHttpMeta ..
    | addAsset kind _ => cases kind <;> exact absurd (comparable_of_ofList_append h) (by decide)
    | _ => exact absurd (comparable_of_ofList_append h) (by decide)
  | addMeta =>
    cases t with
    | addMeta => exact .addMeta ..
    | addAsset kind _ => cases kind <;> exact absurd (comparable_of_ofList_append h) (by decide)
    | _ => exact absurd (comparable_of_ofList_append h) (by decide)
  | setEscapingMethod =>
    cases t with
    | setEscapingMethod => exact .setEscapingMethod ..
    | addAsset kind _ => cases kind <;> exact absurd (comparable_of_ofList_append h) (by decide)
    | _ => exact absurd (comparable_of_ofList_append h) (by decide)
  | addAsset k a =>
    cases t with
    | addAsset l b =>
      cases k with
      | stylesheet =>
        cases l with
        | stylesheet => exact .addAsset ..
        | javascript => exact absurd (comparable_of_ofList_append h) (by decide)
      | javascript =>
        cases l with
        | stylesheet => exact absurd (comparable_of_ofList_append h) (by decide)
        | javascript => exact .addAsset ..
    | _ => cases k <;> exact absurd (comparable_of_ofList_append h) (by decide)

theorem statementLines_append_inj {s t : Statement} {x y : List Line}
    (h : statementLines s ++ x = statementLines t ++ y) : s.Alike t ∧ x = y := by
  obtain ⟨a, b, hopen⟩ := opening_eq_of_append_eq h
  cases sameForm_of_opening hopen with
  | captureResponse => exact ⟨rfl, List.append_cancel_left h⟩
  | selectTemplate m n =>
    simp only [statementLines, flush, List.map_cons, List.map_nil, List.cons_append,
      List.nil_append, List.cons.injEq, Line.mk.injEq, true_and, String.append_assoc,
      String.append_right_inj] at h
    obtain ⟨hname, hrest⟩ := h
    obtain ⟨rfl, -⟩ := templateDefault_append_inj hname
    exact ⟨rfl, hrest⟩
  | applyLayout m mode n mode' =>
    simp only [statementLines, List.cons_append, List.nil_append, List.cons.injEq,
      Line.mk.injEq, true_and, String.append_assoc, String.append_right_inj] at h
    obtain ⟨hmode, hlayout, hrest⟩ := h
    obtain rfl := layoutGuard_inj hmode
    obtain ⟨rfl, -⟩ := decorator_append_inj hlayout
    exact ⟨rfl, hrest⟩
  | setComponentSlot m module action n module' action' =>
    simp only [statementLines, flush, List.map_cons, List.map_nil, List.cons_append,
      List.nil_append, List.cons.injEq, Line.mk.injEq, true_and, String.append_assoc,
      String.append_right_inj] at h
    obtain ⟨hslot, -, hrest⟩ := h
    obtain ⟨rfl, hparts⟩ := literal_append_inj hslot
    obtain ⟨rfl, haction⟩ := optionalLiteral_append_inj ((String.append_right_inj _).1 hparts)
    obtain ⟨rfl, -⟩ := optionalLiteral_append_inj ((String.append_right_inj _).1 haction)
    exact ⟨rfl, hrest⟩
  | addHttpMeta m content n content' =>
    simp only [statementLines, flush, List.map_cons, List.map_nil, List.cons_append,
      List.nil_append, List.cons.injEq, Line.mk.injEq, true_and, String.append_assoc,
      String.append_right_inj] at h
    obtain ⟨hmeta, hrest⟩ := h
    obtain ⟨rfl, hcontent⟩ := literal_append_inj hmeta
    obtain ⟨rfl, -⟩ := literal_append_inj ((String.append_right_inj _).1 hcontent)
    exact ⟨rfl, hrest⟩
  | addMeta m content n content' =>
    simp only [statementLines, flush, List.map_cons, List.map_nil, List.cons_append,
      List.nil_append, List.cons.injEq, Line.mk.injEq, true_and, String.append_assoc,
      String.append_right_inj] at h
    obtain ⟨hmeta, hrest⟩ := h
    obtain ⟨rfl, hcontent⟩ := literal_append_inj hmeta
    obtain ⟨rfl, -⟩ := literal_append_inj ((String.append_right_inj _).1 hcontent)
    exact ⟨rfl, hrest⟩
  | setEscapingMethod m n =>
    simp only [statementLines, flush, List.map_cons, List.map_nil, List.cons_append,
      List.nil_append, List.cons.injEq, Line.mk.injEq, true_and, String.append_assoc,
      String.append_right_inj, String.append_left_inj] at h
    exact h
  | addAsset kind a b =>
    simp only [statementLines, flush, List.map_cons, List.map_nil, List.cons_append,
      List.nil_append, List.cons.injEq, Line.mk.injEq, true_and, String.append_assoc,
      String.append_right_inj] at h
    obtain ⟨hasset, hrest⟩ := h
    obtain ⟨hname, hplace⟩ := literal_append_inj hasset
    obtain ⟨hposition, hjson⟩ := literal_append_inj ((String.append_right_inj _).1 hplace)
    have hoptions := (String.append_left_inj _).1 ((String.append_right_inj _).1 hjson)
    exact ⟨⟨rfl, hname, hposition, hoptions⟩, hrest⟩

/-- Lines that no statement starts with, so that a body ends in front of them. -/
def Stops (r : List Line) : Prop := ∀ l ∈ r.head?, ∀ s a, l ≠ ⟨0, opening s ++ a⟩

theorem stops_nil : Stops [] := by
  intro l hl
  simp at hl

theorem stops_cons {text : String} (h : ∀ s a, text ≠ opening s ++ a) (r : List Line) :
    Stops (⟨0, text⟩ :: r) := by
  intro l hl s a hla
  simp only [List.head?_cons, Option.mem_some_iff] at hl
  exact h s a (by simpa using hl.trans hla)

theorem stops_empty (r : List Line) : Stops (⟨0, ""⟩ :: r) := by
  refine stops_cons (fun s a h => ?_) r
  obtain ⟨c, cs, hopening⟩ : ∃ c cs, opening s = String.ofList (c :: cs) := by
    cases s with
    | addAsset kind _ => cases kind <;> exact ⟨_, _, rfl⟩
    | _ => exact ⟨_, _, rfl⟩
  have hlist := congrArg String.toList h
  simp [hopening] at hlist

theorem stops_let (r : List Line) : Stops (⟨0, "let templateName;"⟩ :: r) := by
  refine stops_cons (fun s a h => ?_) r
  rw [← String.append_empty (s := "let templateName;")] at h
  cases s with
  | addAsset kind _ => cases kind <;> exact absurd (comparable_of_ofList_append h) (by decide)
  | _ => exact absurd (comparable_of_ofList_append h) (by decide)

theorem stops_branchLines (subject : Subject) (b : Branch) (r : List Line) :
    Stops (branchLines subject "if" b ++ r) := by
  refine stops_cons (fun s a h => ?_) _
  simp only [String.append_assoc] at h
  cases s with
  | addAsset kind _ => cases kind <;> exact absurd (comparable_of_ofList_append h) (by decide)
  | _ => exact absurd (comparable_of_ofList_append h) (by decide)

theorem not_stops_statementLines (s : Statement) (x : List Line) :
    ¬ Stops (statementLines s ++ x) := by
  intro h
  obtain ⟨a, ha⟩ := head?_statementLines s
  refine h ⟨0, opening s ++ a⟩ ?_ s a rfl
  rw [List.head?_append, ha]
  rfl

theorem bodyLines_append_inj {b c : List Statement} {r r' : List Line} (hr : Stops r)
    (hr' : Stops r') (h : bodyLines b ++ r = bodyLines c ++ r') :
    List.Forall₂ Statement.Alike b c ∧ r = r' := by
  induction b generalizing c with
  | nil =>
    cases c with
    | nil => exact ⟨.nil, h⟩
    | cons t c =>
      rw [bodyLines, bodyLines, List.flatMap_nil, List.nil_append, List.flatMap_cons,
        List.append_assoc] at h
      exact absurd (h ▸ hr) (not_stops_statementLines t _)
  | cons s b ih =>
    cases c with
    | nil =>
      rw [bodyLines, bodyLines, List.flatMap_nil, List.nil_append, List.flatMap_cons,
        List.append_assoc] at h
      exact absurd (h ▸ hr') (not_stops_statementLines s _)
    | cons t c =>
      rw [bodyLines, bodyLines, List.flatMap_cons, List.flatMap_cons, List.append_assoc,
        List.append_assoc] at h
      obtain ⟨hst, hrest⟩ := statementLines_append_inj h
      obtain ⟨hbc, hrr⟩ := ih hrest
      exact ⟨.cons hst hbc, hrr⟩

theorem indent_injective : Function.Injective Line.indent := by
  intro l m h
  obtain ⟨depth, text⟩ := l
  obtain ⟨depth', text'⟩ := m
  simpa [Line.indent] using h

theorem blockLines_append_inj {b c : List Statement} {x y : List Line}
    (hx : ∀ l ∈ x.head?, l.depth = 0) (hy : ∀ l ∈ y.head?, l.depth = 0)
    (h : blockLines b ++ x = blockLines c ++ y) :
    List.Forall₂ Statement.Alike b c ∧ x = y := by
  -- A block is the longest run of lines below the outermost depth.
  have hdeep : ∀ body, ∀ l ∈ blockLines body, decide (0 < l.depth) = true := by
    intro body l hl
    obtain ⟨m, -, rfl⟩ := List.mem_map.1 hl
    exact decide_eq_true (Nat.succ_pos m.depth)
  obtain ⟨hblock, hxy⟩ := append_inj_of_forall (hdeep b) (hdeep c)
    (fun l hl => by simp [hx l hl]) (fun l hl => by simp [hy l hl]) h
  have hbody := List.map_injective_iff.2 indent_injective hblock
  obtain ⟨hbc, -⟩ := bodyLines_append_inj stops_nil stops_nil
    (congrArg (fun ls => ls ++ ([] : List Line)) hbody)
  exact ⟨hbc, hxy⟩

theorem branchLines_append_inj {s t : Subject} {o : String} {b c : Branch} {x y : List Line}
    (hx : ∀ l ∈ x.head?, l.depth = 0) (hy : ∀ l ∈ y.head?, l.depth = 0)
    (h : branchLines s o b ++ x = branchLines t o c ++ y) : s = t ∧ b.Alike c ∧ x = y := by
  simp only [branchLines, List.cons_append, List.cons.injEq, Line.mk.injEq, true_and,
    String.append_assoc, String.append_right_inj] at h
  obtain ⟨hopening, hblock⟩ := h
  obtain ⟨hst, hview⟩ := subjectText_append_inj hopening
  obtain ⟨hbc, -⟩ := literal_append_inj ((String.append_right_inj _).1 hview)
  obtain ⟨hbody, hxy⟩ := blockLines_append_inj hx hy hblock
  exact ⟨hst, ⟨hbc, hbody⟩, hxy⟩

def tailLines (subject : Subject) (others : List Branch) (fallback : List Statement) :
    List Line :=
  others.flatMap (branchLines subject "\x7d else if")
    ++ (⟨0, "\x7d else \x7b"⟩ :: (blockLines fallback ++ [⟨0, "\x7d"⟩]))

theorem dispatchLines_cons (subject : Subject) (first : Branch) (others : List Branch)
    (fallback : List Statement) :
    dispatchLines ⟨subject, first :: others, fallback⟩ =
      branchLines subject "if" first ++ tailLines subject others fallback := by
  simp only [dispatchLines, tailLines, List.append_assoc, List.cons_append]

theorem depth_head_tailLines (subject : Subject) (others : List Branch)
    (fallback : List Statement) (x : List Line) :
    ∀ l ∈ (tailLines subject others fallback ++ x).head?, l.depth = 0 := by
  intro l hl
  cases others with
  | nil =>
    simp only [tailLines, List.flatMap_nil, List.nil_append, List.cons_append, List.head?_cons,
      Option.mem_some_iff] at hl
    rw [← hl]
  | cons b others =>
    simp only [tailLines, List.flatMap_cons, branchLines, List.cons_append, List.head?_cons,
      Option.mem_some_iff] at hl
    rw [← hl]

theorem else_ne_branch (subject : Subject) (b : Branch) :
    "\x7d else \x7b" ≠ "\x7d else if" ++ " (" ++ subjectText subject ++ " === "
      ++ literal b.view ++ ") \x7b" := by
  intro h
  rw [← String.append_empty (s := "\x7d else \x7b")] at h
  simp only [String.append_assoc] at h
  exact absurd (comparable_of_ofList_append h) (by decide)

theorem tailLines_append_inj {subject : Subject} {others others' : List Branch}
    {fallback fallback' : List Statement} {x y : List Line}
    (h : tailLines subject others fallback ++ x = tailLines subject others' fallback' ++ y) :
    List.Forall₂ Branch.Alike others others' ∧
      List.Forall₂ Statement.Alike fallback fallback' ∧ x = y := by
  induction others generalizing others' with
  | nil =>
    cases others' with
    | nil =>
      simp only [tailLines, List.flatMap_nil, List.nil_append, List.cons_append,
        List.append_assoc, List.cons.injEq, true_and] at h
      obtain ⟨hfallback, hrest⟩ := blockLines_append_inj (by simp) (by simp) h
      exact ⟨.nil, hfallback, (List.cons.inj hrest).2⟩
    | cons c others' =>
      simp only [tailLines, List.flatMap_nil, List.nil_append, List.flatMap_cons, branchLines,
        List.cons_append, List.cons.injEq, Line.mk.injEq, true_and] at h
      exact absurd h.1 (else_ne_branch subject c)
  | cons b others ih =>
    cases others' with
    | nil =>
      simp only [tailLines, List.flatMap_nil, List.nil_append, List.flatMap_cons, branchLines,
        List.cons_append, List.cons.injEq, Line.mk.injEq, true_and] at h
      exact absurd h.1.symm (else_ne_branch subject b)
    | cons c others' =>
      have hcons : ∀ a as f z, tailLines subject (a :: as) f ++ z =
          branchLines subject "\x7d else if" a ++ (tailLines subject as f ++ z) := by
        intro a as f z
        simp only [tailLines, List.flatMap_cons, List.append_assoc]
      rw [hcons, hcons] at h
      obtain ⟨-, hbc, hrest⟩ := branchLines_append_inj (depth_head_tailLines _ _ _ _)
        (depth_head_tailLines _ _ _ _) h
      obtain ⟨hothers, hfallback, hxy⟩ := ih hrest
      exact ⟨.cons hbc hothers, hfallback, hxy⟩

def Ends (r : List Line) : Prop := ∀ l ∈ r.head?, l = ⟨0, ""⟩

theorem Ends.stops {r : List Line} (h : Ends r) : Stops r := by
  cases r with
  | nil => exact stops_nil
  | cons l r =>
    rw [h l rfl]
    exact stops_empty r

theorem not_ends_branchLines (subject : Subject) (b : Branch) (x : List Line) :
    ¬ Ends (branchLines subject "if" b ++ x) := by
  intro h
  have htext := congrArg (fun l => l.text.toList) (h _ rfl)
  simp at htext

theorem dispatchLines_append_inj {d e : Dispatch} {x y : List Line} (hx : Ends x) (hy : Ends y)
    (h : dispatchLines d ++ x = dispatchLines e ++ y) : d.Alike e ∧ x = y := by
  obtain ⟨s, branches, fallback⟩ := d
  obtain ⟨t, branches', fallback'⟩ := e
  cases branches with
  | nil =>
    cases branches' with
    | nil =>
      obtain ⟨hfallback, hxy⟩ := bodyLines_append_inj hx.stops hy.stops h
      exact ⟨⟨fun hne => absurd rfl hne, .nil, hfallback⟩, hxy⟩
    | cons c others' =>
      -- A fallback alone cannot hold the line that opens a branch, since no statement writes it.
      rw [dispatchLines_cons, List.append_assoc] at h
      obtain ⟨-, hxbranch⟩ := bodyLines_append_inj (c := []) hx.stops
        (stops_branchLines t c _) h
      exact absurd (hxbranch ▸ hx) (not_ends_branchLines t c _)
  | cons b others =>
    cases branches' with
    | nil =>
      rw [dispatchLines_cons, List.append_assoc] at h
      obtain ⟨-, hybranch⟩ := bodyLines_append_inj (c := []) hy.stops
        (stops_branchLines s b _) h.symm
      exact absurd (hybranch ▸ hy) (not_ends_branchLines s b _)
    | cons c others' =>
      rw [dispatchLines_cons, dispatchLines_cons, List.append_assoc, List.append_assoc] at h
      obtain ⟨rfl, hbc, hrest⟩ := branchLines_append_inj (depth_head_tailLines _ _ _ _)
        (depth_head_tailLines _ _ _ _) h
      obtain ⟨hothers, hfallback, hxy⟩ := tailLines_append_inj hrest
      exact ⟨⟨fun _ => rfl, .cons hbc hothers, hfallback⟩, hxy⟩

theorem alike_of_procedureLines_eq {p q : Procedure} (h : procedureLines p = procedureLines q) :
    p.Alike q := by
  simp only [procedureLines, flush, List.map_cons, List.map_nil, List.append_assoc,
    List.cons_append, List.nil_append, List.cons.injEq, Line.mk.injEq, true_and,
    String.append_right_inj] at h
  obtain ⟨hdate, hlines⟩ := h
  obtain ⟨hprelude, hphases⟩ := bodyLines_append_inj (stops_let _) (stops_let _) hlines
  have hphases := (List.cons.inj (List.cons.inj hphases).2).2
  obtain ⟨htemplate, hsetup⟩ := dispatchLines_append_inj (by simp [Ends]) (by simp [Ends]) hphases
  have hsetup := congrArg (fun ls => ls ++ ([] : List Line)) (List.cons.inj hsetup).2
  obtain ⟨hsetup, -⟩ := dispatchLines_append_inj (by simp [Ends]) (by simp [Ends]) hsetup
  exact ⟨Moment.headerText_inj.1 hdate, hprelude, htemplate, hsetup⟩

section Converse

theorem statementLines_eq_of_alike {s t : Statement} (h : s.Alike t) :
    statementLines s = statementLines t := by
  cases s with
  | setEscapingMethod m =>
    cases t with
    | setEscapingMethod n => simp only [statementLines, show valueLiteral m = valueLiteral n from h]
    | _ => exact absurd h (by simp [Statement.Alike])
  | addAsset k a =>
    cases t with
    | addAsset l b =>
      obtain ⟨hkind, hname, hposition, hoptions⟩ := h
      simp only [statementLines, hkind, hname, hposition, hoptions]
    | _ => exact absurd h (by simp [Statement.Alike])
  | _ =>
    simp only [Statement.Alike] at h
    rw [h]

theorem bodyLines_eq_of_alike {b c : List Statement} (h : List.Forall₂ Statement.Alike b c) :
    bodyLines b = bodyLines c := by
  induction h with
  | nil => rfl
  | cons hst _ ih =>
    rw [bodyLines, bodyLines, List.flatMap_cons, List.flatMap_cons, statementLines_eq_of_alike hst]
    exact congrArg _ ih

theorem branchLines_eq_of_alike (subject : Subject) (o : String) {b c : Branch}
    (h : b.Alike c) : branchLines subject o b = branchLines subject o c := by
  rw [branchLines, branchLines, blockLines, blockLines, h.view, bodyLines_eq_of_alike h.body]

theorem flatMap_branchLines_eq_of_alike (subject : Subject) (o : String) {bs cs : List Branch}
    (h : List.Forall₂ Branch.Alike bs cs) :
    bs.flatMap (branchLines subject o) = cs.flatMap (branchLines subject o) := by
  induction h with
  | nil => rfl
  | cons hbc _ ih =>
    rw [List.flatMap_cons, List.flatMap_cons, branchLines_eq_of_alike subject o hbc, ih]

theorem dispatchLines_eq_of_alike {d e : Dispatch} (h : d.Alike e) :
    dispatchLines d = dispatchLines e := by
  obtain ⟨s, branches, fallback⟩ := d
  obtain ⟨t, branches', fallback'⟩ := e
  obtain ⟨hsubject, hbranches, hfallback⟩ := h
  cases hbranches with
  | nil => exact bodyLines_eq_of_alike hfallback
  | cons hbc hothers =>
    obtain rfl := hsubject (by simp)
    rw [dispatchLines_cons, dispatchLines_cons, tailLines, tailLines, blockLines, blockLines,
      branchLines_eq_of_alike s "if" hbc, flatMap_branchLines_eq_of_alike s _ hothers,
      bodyLines_eq_of_alike hfallback]

theorem render_eq_of_alike {p q : Procedure} (h : p.Alike q) : render p = render q := by
  rw [render, render, procedureLines, procedureLines, Moment.headerText_inj.2 h.generatedAt,
    bodyLines_eq_of_alike h.prelude, dispatchLines_eq_of_alike h.templatePhase,
    dispatchLines_eq_of_alike h.setupPhase]

end Converse

/-- Two procedures with one script say the same, and what says the same has one script. -/
theorem render_eq_render_iff (p q : Procedure) : render p = render q ↔ p.Alike q :=
  ⟨fun h => alike_of_procedureLines_eq (procedureLines_of_render_eq h), render_eq_of_alike⟩

end Script

end ViewLayers
