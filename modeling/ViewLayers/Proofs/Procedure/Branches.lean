import ViewLayers.Proofs.Layers.Removal
import ViewLayers.Proofs.Procedure.Reach

/-!
# The branch of one view

Every view has one branch in each phase. Taking the branch away from a procedure is the same
as compiling a tree without the view, so whatever is done to the view, the other branches and
the general case stay as they are.
-/

namespace ViewLayers

def Dispatch.withoutBranch (d : Dispatch) (view : String) : Dispatch :=
  { d with branches := d.branches.filter fun b => b.view ≠ view }

def Procedure.withoutBranch (p : Procedure) (view : String) : Procedure :=
  { p with
    templatePhase := p.templatePhase.withoutBranch view
    setupPhase := p.setupPhase.withoutBranch view }

namespace ViewTree

theorem viewNames_remove (t : ViewTree) (view : String) :
    (t.remove view).viewNames = t.viewNames.filter fun name => name ≠ view := by
  simp only [viewNames, remove, Entries.without, List.filter_filter, List.filter_map,
    Function.comp_def]
  refine congrArg _ (List.filter_congr fun e _ => ?_)
  rw [Bool.and_comm, decide_not]
  rfl

theorem agree_remove (t : ViewTree) {view name : String} (hc : view ≠ commonLayer)
    (hn : name ≠ view) : Agree (t.remove view) t name where
  common := get?_remove_of_ne t hc.symm
  own := fun _ => get?_remove_of_ne t hn

theorem withoutBranch_phase {s t : ViewTree} {view : String} (subject : Subject)
    {f g : String → List Statement}
    (hnames : t.viewNames = s.viewNames.filter fun name => name ≠ view)
    (hbody : ∀ name, name ≠ view → f name = g name) (hgeneral : generalView ≠ view) :
    (s.phase subject f).withoutBranch view = t.phase subject g := by
  have hbranches : (s.viewNames.map fun name => (⟨name, f name⟩ : Branch)).filter
      (fun b => b.view ≠ view) = t.viewNames.map fun name => ⟨name, g name⟩ := by
    rw [List.filter_map, hnames]
    refine List.map_congr_left fun name hname => ?_
    rw [hbody name (by simpa using (List.mem_filter.1 hname).2)]
  simp only [phase, Dispatch.withoutBranch, hbranches, hbody generalView hgeneral]

theorem withoutBranch_procedure (t : ViewTree) (date : Moment) {view : String}
    (hg : view ≠ generalView) (hc : view ≠ commonLayer) :
    (t.procedure date).withoutBranch view = (t.remove view).procedure date := by
  have hnames := viewNames_remove t view
  have htemplate : ∀ name, name ≠ view →
      t.templateStatements name = (t.remove view).templateStatements name := by
    intro name hn
    exact (agree_remove t hc hn).templateStatements_eq.symm
  have hsetup : ∀ name, name ≠ view →
      t.setupStatements name = (t.remove view).setupStatements name := by
    intro name hn
    -- The general case is among these names, and its layout mode is read off an entry too.
    exact ((agree_remove t hc hn).setupStatements_eq_iff.2
      (setsLayout_congr (get?_remove_of_ne t hn))).symm
  rw [procedure, procedure, Procedure.withoutBranch, templatePhase, templatePhase, setupPhase,
    setupPhase, withoutBranch_phase .actionView hnames htemplate hg.symm,
    withoutBranch_phase .templateView hnames hsetup hg.symm]

/-- Trees that differ in one view alone, in what it sets, where it stands or whether it is
there, have procedures that differ in its branches alone. -/
theorem withoutBranch_compileTree_eq (lookup : String → Option String) (date : Moment)
    {s t : ViewTree} {view : String} (hg : view ≠ generalView) (hv : isReserved view = false)
    (h : s.remove view = t.remove view) :
    (compileTree lookup date s).procedure.withoutBranch view =
      (compileTree lookup date t).procedure.withoutBranch view := by
  have hc : view ≠ commonLayer := (isReserved_eq_false.1 hv).2
  have hcompile : ∀ raw : ViewTree, (compileTree lookup date raw).procedure.withoutBranch view =
      ((raw.remove view).mergeLayers lookup).procedure date := by
    intro raw
    rw [compileTree, withoutBranch_procedure _ date hg hc, remove_mergeLayers raw hv]
  rw [hcompile, hcompile, h]

def showLayers : ViewTree :=
  ⟨[("default", [(.string "stylesheets", .list [.string "main", .string "%LIB%"])]),
    ("show", [(.string "stylesheets", .list [.string "-main"])]),
    ("all", [(.string "layout", .string "base"), (.string "has_layout", .bool true)])]⟩

def editFirst : ViewTree :=
  ⟨("edit", [(.string "layout", .null), (.string "template", .string "form")]) ::
    showLayers.views⟩

def editLast : ViewTree :=
  showLayers.insert "edit" [(.string "stylesheets", .list [.string "-*", .string "form"])]

def libraryConstant (name : String) : Option String :=
  if name = "lib" then some "lib-1.2" else none

theorem withoutBranch_editFirst :
    "edit" ≠ generalView ∧ isReserved "edit" = false ∧
      editFirst.remove "edit" = editLast.remove "edit" ∧
      (compileTree libraryConstant default editFirst).procedure ≠
        (compileTree libraryConstant default editLast).procedure ∧
      (compileTree libraryConstant default editFirst).procedure.withoutBranch "edit" =
        (compileTree libraryConstant default editLast).procedure.withoutBranch "edit" := by
  have h : editFirst.remove "edit" = editLast.remove "edit" := by decide
  refine ⟨by decide, by decide, h, ?_, ?_⟩
  · decide +kernel
  · exact withoutBranch_compileTree_eq libraryConstant default (by decide) (by decide) h

end ViewTree

end ViewLayers
