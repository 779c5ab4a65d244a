import ViewLayers.Proofs.Additive.Layered
import ViewLayers.Proofs.Assets.Queue
import ViewLayers.Proofs.Layers.Views
import ViewLayers.Proofs.Procedure.Reach
import ViewLayers.Proofs.Text.Markup

/-!
# The form of a procedure

Whatever a configuration holds, the procedure compiled from it has one form. Every body of the
first phase selects a template; every body of the second applies one layout and then goes through
the other facets in a fixed order, and what it says there is fit to be written out.
-/

namespace ViewLayers

structure Setup where
  layout : Option String
  mode : LayoutMode
  slots : List (String × Option String × Option String)
  httpMetas : List (String × String)
  metas : List (String × String)
  method : Option Value
  stylesheets : List Asset
  javascripts : List Asset

namespace Setup

def statements (s : Setup) : List Statement :=
  .applyLayout s.layout s.mode ::
    ((s.slots.map fun slot => .setComponentSlot slot.1 slot.2.1 slot.2.2)
      ++ (s.httpMetas.map fun m => .addHttpMeta m.1 m.2)
      ++ (s.metas.map fun m => .addMeta m.1 m.2)
      ++ (s.method.map .setEscapingMethod).toList
      ++ s.stylesheets.map (.addAsset .stylesheet)
      ++ s.javascripts.map (.addAsset .javascript))

structure Valid (s : Setup) : Prop where
  layout_ne : s.layout ≠ some ""
  metas_escaped : ∀ m ∈ s.metas, ∀ c ∈ m.2.toList, c ∉ Text.markupMarks
  method_not_null : ∀ method, s.method = some method → method.isNull = false
  stylesheets : AssetList s.stylesheets
  javascripts : AssetList s.javascripts

end Setup

namespace Dispatch

def names (d : Dispatch) : List String := d.branches.map Branch.view

def bodies (d : Dispatch) : List (List Statement) := d.fallback :: d.branches.map Branch.body

end Dispatch

/-- The form that the writer of the script relies on. -/
structure Procedure.WellFormed (p : Procedure) : Prop where
  prelude_eq : p.prelude = [.captureResponse]
  names_eq : p.setupPhase.names = p.templatePhase.names
  names_nodup : p.templatePhase.names.Nodup
  names_free : ∀ name ∈ p.templatePhase.names, name ≠ defaultLayer ∧ name ≠ commonLayer
  templates : ∀ body ∈ p.templatePhase.bodies, ∃ name, body = [.selectTemplate name]
  setups : ∀ body ∈ p.setupPhase.bodies, ∃ s : Setup, s.Valid ∧ body = s.statements

namespace ViewTree

def setup (t : ViewTree) (view : String) : Setup where
  layout := t.layoutName? view
  mode := t.layoutMode view
  slots := (t.combined "components" view).entries.map fun e =>
    (e.1.keyText, (componentParts e.2).bind fun p => p.1.scalarText?,
      (componentParts e.2).bind fun p => p.2.scalarText?)
  httpMetas := (t.combined "http_metas" view).entries.map fun e => (e.1.keyText, e.2.scalarText)
  metas := (t.combined "metas" view).entries.map fun e =>
    (e.1.keyText, Text.metaContent e.2.scalarText)
  method := t.escapingMethod? view
  stylesheets := t.assetsOf .stylesheet view
  javascripts := t.assetsOf .javascript view

variable (t : ViewTree) (view : String)

theorem setupStatements_eq_statements : t.setupStatements view = (t.setup view).statements := by
  have hassets : t.assetStatements view =
      (t.assetsOf .stylesheet view).map (.addAsset .stylesheet) ++
        (t.assetsOf .javascript view).map (.addAsset .javascript) := by
    simp [assetStatements]
  rw [setupStatements_eq_cons, furnishing, slotStatements_eq, entryStatements, headStatements,
    httpMetaStatements, metaStatements, escapingStatements, hassets]
  simp only [Setup.statements, setup, List.map_map, Function.comp_def, List.append_assoc]
  rfl

theorem layoutName?_ne_empty : t.layoutName? view ≠ some "" := by
  intro h
  rw [layoutName?] at h
  split at h
  · obtain ⟨v, -, hv⟩ := Option.bind_eq_some_iff.1 h
    have hne := (Option.filter_eq_some_iff.1 hv).2
    exact absurd hne (by decide)
  · cases h

theorem not_isNull_of_escapingMethod? {method : Value} (h : t.escapingMethod? view = some method) :
    method.isNull = false := by
  simpa using (Option.filter_eq_some_iff.1 h).2

theorem valid_setup : (t.setup view).Valid where
  layout_ne := t.layoutName?_ne_empty view
  metas_escaped := by
    intro m hm c hc
    obtain ⟨e, -, rfl⟩ := List.mem_map.1 hm
    exact Text.notMem_markupMarks_of_mem_metaContent hc
  method_not_null := fun _ h => t.not_isNull_of_escapingMethod? view h
  stylesheets := assetList_compileAssets _
  javascripts := assetList_compileAssets _

theorem names_phase (subject : Subject) (body : String → List Statement) :
    (t.phase subject body).names = t.viewNames := by
  rw [phase, Dispatch.names, List.map_map]
  exact List.map_id t.viewNames

theorem exists_of_mem_bodies_phase {subject : Subject} {body : String → List Statement}
    {statements : List Statement} (h : statements ∈ (t.phase subject body).bodies) :
    ∃ name, statements = body name := by
  rcases List.mem_cons.1 h with hfallback | hbranch
  · exact ⟨generalView, hfallback⟩
  · rw [phase, List.map_map] at hbranch
    obtain ⟨name, -, hname⟩ := List.mem_map.1 hbranch
    exact ⟨name, hname.symm⟩

theorem wellFormed_procedure (h : t.viewNames.Nodup) (date : Moment) :
    (t.procedure date).WellFormed where
  prelude_eq := rfl
  names_eq := (t.names_phase _ _).trans (t.names_phase _ _).symm
  names_nodup := by
    rw [procedure, templatePhase, names_phase]
    exact h
  names_free := by
    intro name hname
    rw [procedure, templatePhase, names_phase, viewNames] at hname
    apply isReserved_eq_false.1
    simpa using (List.mem_filter.1 hname).2
  templates := by
    intro body hbody
    obtain ⟨name, rfl⟩ := t.exists_of_mem_bodies_phase hbody
    exact ⟨_, rfl⟩
  setups := by
    intro body hbody
    obtain ⟨name, rfl⟩ := t.exists_of_mem_bodies_phase hbody
    exact ⟨t.setup name, t.valid_setup name, t.setupStatements_eq_statements name⟩

theorem nodup_viewNames {t : ViewTree} (h : Entries.Distinct t.views) : t.viewNames.Nodup := by
  have hkeys : (Entries.keys t.views).Nodup :=
    (Entries.distinct_iff_pairwise_keys.1 h).imp ne_of_beq_false
  exact hkeys.filter _

/-- A tree that names each view once is compiled to a procedure of the one form. -/
theorem wellFormed_compileTree (lookup : String → Option String) (date : Moment)
    (raw : DistinctEntries String Record) :
    (compileTree lookup date ⟨raw.entries⟩).procedure.WellFormed := by
  apply wellFormed_procedure
  rw [viewNames_mergeLayers]
  exact nodup_viewNames raw.distinct

def oddLayers : ViewTree :=
  ⟨[("", [(.string "layout", .tagged "t" .null)]),
    ("default", [(.string "metas", .record [(.string "title", .string "<b>%SITE%</b>")]),
      (.string "stylesheets", .list [.string "main", .string "%RESET%"])]),
    ("edit", [(.string "escaping", .record [(.string "method", .tagged "t" .null)]),
      (.string "javascripts",
        .record [(.string "form", .record [(.string "position", .int 1)])])])]⟩

def resetConstant (name : String) : Option String :=
  if name = "reset" then some "-*" else if name = "site" then some "'A' & B" else none

theorem wellFormed_oddLayers :
    Entries.Distinct oddLayers.views ∧
      (compileTree resetConstant default oddLayers).procedure.WellFormed := by
  have h : Entries.Distinct oddLayers.views := by decide
  exact ⟨h, wellFormed_compileTree resetConstant default ⟨oddLayers.views, h⟩⟩

end ViewTree

end ViewLayers
