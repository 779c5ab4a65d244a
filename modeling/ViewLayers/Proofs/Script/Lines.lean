import ViewLayers.Proofs.Script.Header

/-!
# Lines of a script

The text of every line is free of line feeds and starts with something other than a blank,
whatever a configuration says. So the lines of a script and their depths can be read off its
text.
-/

namespace ViewLayers.Script

namespace Line

def written (l : Line) : List Char := List.replicate (2 * l.depth) ' ' ++ l.text.toList

structure Plain (l : Line) : Prop where
  oneLine : OneLine l.text
  head_ne : ∀ c ∈ l.text.toList.head?, c ≠ ' '

theorem chars_eq (l : Line) : l.chars = l.written ++ ['\n'] := rfl

theorem Plain.indent {l : Line} (h : l.Plain) : l.indent.Plain := ⟨h.oneLine, h.head_ne⟩

theorem Plain.lineFeed_notMem {l : Line} (h : l.Plain) : '\n' ∉ l.written := by
  rw [written, List.mem_append, not_or]
  refine ⟨?_, h.oneLine.lineFeed_notMem⟩
  intro hc
  exact absurd (List.eq_of_mem_replicate hc) (by decide)

theorem Plain.written_inj {l m : Line} (hl : l.Plain) (hm : m.Plain)
    (h : l.written = m.written) : l = m := by
  have hblank : ∀ n, ∀ c ∈ List.replicate n ' ', (c == ' ') = true := by
    intro n c hc
    rw [List.eq_of_mem_replicate hc]
    rfl
  obtain ⟨hdepth, htext⟩ := append_inj_of_forall (hblank _) (hblank _)
    (fun c hc => beq_eq_false_iff_ne.2 (hl.head_ne c hc))
    (fun c hc => beq_eq_false_iff_ne.2 (hm.head_ne c hc)) h
  have hlength := congrArg List.length hdepth
  rw [List.length_replicate, List.length_replicate] at hlength
  obtain ⟨depth, text⟩ := l
  obtain ⟨depth', text'⟩ := m
  have hd : depth = depth' := by
    simp only at hlength
    omega
  have ht : text = text' := String.toList_inj.1 htext
  rw [hd, ht]

end Line

theorem splitOn_flatMap_chars {ls : List Line} (h : ∀ l ∈ ls, l.Plain) :
    (ls.flatMap Line.chars).splitOn '\n' = ls.map Line.written ++ [[]] := by
  induction ls with
  | nil => rfl
  | cons l ls ih =>
    rw [List.flatMap_cons, Line.chars_eq, List.append_assoc, List.singleton_append,
      List.splitOn_append_cons_self_of_not_mem (h l List.mem_cons_self).lineFeed_notMem,
      ih fun m hm => h m (List.mem_cons_of_mem _ hm)]
    rfl

theorem map_written_inj {ls ms : List Line} (hl : ∀ l ∈ ls, l.Plain) (hm : ∀ m ∈ ms, m.Plain)
    (h : ls.map Line.written = ms.map Line.written) : ls = ms := by
  induction ls generalizing ms with
  | nil => exact (List.map_eq_nil_iff.1 h.symm).symm
  | cons l ls ih =>
    cases ms with
    | nil => exact absurd h (by simp)
    | cons m ms =>
      obtain ⟨hhead, htail⟩ := List.cons.inj h
      rw [(hl l List.mem_cons_self).written_inj (hm m List.mem_cons_self) hhead,
        ih (fun a ha => hl a (List.mem_cons_of_mem _ ha))
          (fun b hb => hm b (List.mem_cons_of_mem _ hb)) htail]

section Plain

theorem plain_ofList {depth : Nat} {c : Char} {cs : List Char} (hc : c ≠ ' ')
    (hs : ((c :: cs).all fun c => 0x20 ≤ c.toNat) = true) :
    (Line.mk depth (String.ofList (c :: cs))).Plain where
  oneLine := oneLine_ofList hs
  head_ne d hd := by
    simp only [String.toList_ofList, List.head?_cons, Option.mem_some_iff] at hd
    exact hd ▸ hc

theorem plain_ofList_append {depth : Nat} {c : Char} {cs : List Char} {rest : String}
    (hc : c ≠ ' ') (hs : ((c :: cs).all fun c => 0x20 ≤ c.toNat) = true) (hr : OneLine rest) :
    (Line.mk depth (String.ofList (c :: cs) ++ rest)).Plain where
  oneLine := oneLine_append.2 ⟨oneLine_ofList hs, hr⟩
  head_ne d hd := by
    simp only [String.toList_append, String.toList_ofList, List.cons_append, List.head?_cons,
      Option.mem_some_iff] at hd
    exact hd ▸ hc

theorem oneLine_templateDefault (name : Option String) : OneLine (templateDefault name) := by
  cases name with
  | none => exact oneLine_ofList (by decide)
  | some name => exact oneLine_literal name

theorem oneLine_decorator (layout : Option String) : OneLine (decorator layout) := by
  cases layout with
  | none => exact oneLine_ofList (by decide)
  | some name => exact oneLine_append.2 ⟨oneLine_literal name, oneLine_ofList (by decide)⟩

theorem oneLine_overrideStart : OneLine overrideStart := oneLine_ofList (by decide)

theorem plain_layoutGuard (mode : LayoutMode) : (Line.mk 0 (layoutGuard mode)).Plain := by
  cases mode with
  | own => exact plain_ofList (by decide) (by decide)
  | inherited =>
    exact plain_ofList_append (by decide) (by decide) (oneLine_ofList (by decide))

theorem plain_statementLines (s : Statement) : ∀ l ∈ statementLines s, l.Plain := by
  have hcomma : OneLine ", " := oneLine_ofList (by decide)
  have hend : OneLine ");" := oneLine_ofList (by decide)
  cases s with
  | captureResponse =>
    exact List.forall_mem_singleton.2 (plain_ofList (by decide) (by decide))
  | selectTemplate name =>
    have hkey : OneLine "'_template') ?? " := oneLine_ofList (by decide)
    have hsemicolon : OneLine ";" := oneLine_ofList (by decide)
    simp only [statementLines, flush, List.map_cons, List.map_nil, List.forall_mem_cons,
      String.append_assoc]
    refine ⟨plain_ofList_append (by decide) (by decide) ?_,
      plain_ofList (by decide) (by decide), by simp⟩
    simp only [oneLine_append, oneLine_overrideStart, oneLine_templateDefault, hkey, hsemicolon,
      and_self]
  | applyLayout layout mode =>
    have hkey : OneLine "'_layout');" := oneLine_ofList (by decide)
    simp only [statementLines, List.forall_mem_cons, String.append_assoc]
    refine ⟨plain_ofList_append (by decide) (by decide) ?_, plain_ofList (by decide) (by decide),
      plain_ofList (by decide) (by decide), plain_layoutGuard mode,
      plain_ofList_append (by decide) (by decide) ?_, plain_ofList (by decide) (by decide),
      by simp⟩
    · exact oneLine_append.2 ⟨oneLine_overrideStart, hkey⟩
    · exact oneLine_append.2 ⟨oneLine_decorator layout, hend⟩
  | setComponentSlot name module action =>
    simp only [statementLines, flush, List.map_cons, List.map_nil, List.forall_mem_cons,
      String.append_assoc]
    refine ⟨plain_ofList_append (by decide) (by decide) ?_,
      plain_ofList_append (by decide) (by decide) ?_, by simp⟩
    · simp only [oneLine_append, oneLine_literal, oneLine_optionalLiteral, hcomma, hend, and_self]
    · exact oneLine_append.2 ⟨oneLine_literal _, hend⟩
  | addHttpMeta name content =>
    have htail : OneLine ", false);" := oneLine_ofList (by decide)
    simp only [statementLines, flush, List.map_cons, List.map_nil, List.forall_mem_singleton,
      String.append_assoc]
    refine plain_ofList_append (by decide) (by decide) ?_
    simp only [oneLine_append, oneLine_literal, hcomma, htail, and_self]
  | addMeta name content =>
    have htail : OneLine ", false, false);" := oneLine_ofList (by decide)
    simp only [statementLines, flush, List.map_cons, List.map_nil, List.forall_mem_singleton,
      String.append_assoc]
    refine plain_ofList_append (by decide) (by decide) ?_
    simp only [oneLine_append, oneLine_literal, hcomma, htail, and_self]
  | setEscapingMethod method =>
    simp only [statementLines, flush, List.map_cons, List.map_nil, List.forall_mem_singleton,
      String.append_assoc]
    refine plain_ofList_append (by decide) (by decide) ?_
    exact oneLine_append.2 ⟨oneLine_valueLiteral method, hend⟩
  | addAsset kind asset =>
    have hopen : OneLine "(" := oneLine_ofList (by decide)
    have hmethod : OneLine (assetMethod kind) := by
      cases kind <;> exact oneLine_ofList (by decide)
    simp only [statementLines, flush, List.map_cons, List.map_nil, List.forall_mem_singleton,
      String.append_assoc]
    refine plain_ofList_append (by decide) (by decide) ?_
    simp only [oneLine_append, oneLine_literal, oneLine_recordLiteral, hopen, hmethod, hcomma,
      hend, and_self]

theorem plain_bodyLines (body : List Statement) : ∀ l ∈ bodyLines body, l.Plain := by
  intro l hl
  obtain ⟨s, -, hs⟩ := List.mem_flatMap.1 hl
  exact plain_statementLines s l hs

theorem plain_blockLines (body : List Statement) : ∀ l ∈ blockLines body, l.Plain := by
  intro l hl
  obtain ⟨m, hm, rfl⟩ := List.mem_map.1 hl
  exact (plain_bodyLines body m hm).indent

theorem plain_branchLines {c : Char} {cs : List Char} (subject : Subject) (hc : c ≠ ' ')
    (hs : ((c :: cs).all fun c => 0x20 ≤ c.toNat) = true) (b : Branch) :
    ∀ l ∈ branchLines subject (String.ofList (c :: cs)) b, l.Plain := by
  have hopen : OneLine " (" := oneLine_ofList (by decide)
  have hequal : OneLine " === " := oneLine_ofList (by decide)
  have hend : OneLine ") \x7b" := oneLine_ofList (by decide)
  have hsubject : OneLine (subjectText subject) := by
    cases subject <;> exact oneLine_ofList (by decide)
  refine List.forall_mem_cons.2 ⟨?_, plain_blockLines b.body⟩
  simp only [String.append_assoc]
  refine plain_ofList_append hc hs ?_
  simp only [oneLine_append, oneLine_literal, hopen, hequal, hend, hsubject, and_self]

theorem plain_dispatchLines (d : Dispatch) : ∀ l ∈ dispatchLines d, l.Plain := by
  obtain ⟨subject, branches, fallback⟩ := d
  cases branches with
  | nil => exact plain_bodyLines fallback
  | cons first others =>
    intro l hl
    simp only [dispatchLines, List.mem_append, List.mem_cons, List.mem_flatMap,
      List.not_mem_nil, or_false] at hl
    rcases hl with ((hl | ⟨b, -, hl⟩) | rfl | hl) | rfl
    · exact plain_branchLines subject (by decide) (by decide) first l hl
    · exact plain_branchLines subject (by decide) (by decide) b l hl
    · exact plain_ofList (by decide) (by decide)
    · exact plain_blockLines fallback l hl
    · exact plain_ofList (by decide) (by decide)

theorem plain_empty : (Line.mk 0 "").Plain where
  oneLine := oneLine_ofList (by decide)
  head_ne c hc := by simp at hc

theorem plain_procedureLines (p : Procedure) : ∀ l ∈ procedureLines p, l.Plain := by
  intro l hl
  simp only [procedureLines, flush, List.map_cons, List.map_nil, List.mem_append, List.mem_cons,
    List.not_mem_nil, or_false] at hl
  rcases hl with ((((((rfl | rfl) | hl) | rfl | rfl) | hl) | rfl) | hl)
  · exact plain_ofList (by decide) (by decide)
  · exact plain_ofList_append (by decide) (by decide)
      (Moment.bare_headerText p.generatedAt).oneLine
  · exact plain_bodyLines p.prelude l hl
  · exact plain_ofList (by decide) (by decide)
  · exact plain_empty
  · exact plain_dispatchLines p.templatePhase l hl
  · exact plain_empty
  · exact plain_dispatchLines p.setupPhase l hl

end Plain

theorem toList_render (p : Procedure) :
    (render p).toList = (procedureLines p).flatMap Line.chars := by
  rw [render, String.toList_ofList]

theorem splitOn_render (p : Procedure) :
    (render p).toList.splitOn '\n' = (procedureLines p).map Line.written ++ [[]] := by
  rw [toList_render, splitOn_flatMap_chars (plain_procedureLines p)]

theorem procedureLines_of_render_eq {p q : Procedure} (h : render p = render q) :
    procedureLines p = procedureLines q := by
  have hsplit := congrArg (fun s : String => s.toList.splitOn '\n') h
  simp only [splitOn_render] at hsplit
  exact map_written_inj (plain_procedureLines p) (plain_procedureLines q)
    (List.append_cancel_right hsplit)

end ViewLayers.Script
