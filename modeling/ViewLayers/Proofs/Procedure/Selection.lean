import ViewLayers.Proofs.Layers.Settings
import ViewLayers.Proofs.Procedure.WellFormed

/-!
# The body that a name selects

A phase compares a name with its branches from the first to the last. Whatever the name is, the
body that is carried out is that of the view with this name or that of the general case. The
template of a view that is not there is the one of the general case, so in the first phase only a
reserved name is treated otherwise than the view it would be.
-/

namespace ViewLayers

theorem find?_branch (body : String → List Statement) (name : String) (views : List String) :
    ((views.map fun view => (⟨view, body view⟩ : Branch)).find? fun b => b.view = name) =
      if name ∈ views then some ⟨name, body name⟩ else none := by
  induction views with
  | nil => rfl
  | cons view views ih =>
    by_cases h : view = name
    · subst h
      rw [List.map_cons, List.find?_cons_of_pos (by simp), if_pos List.mem_cons_self]
    · have hname : name ∈ view :: views ↔ name ∈ views := by
        rw [List.mem_cons, or_iff_right fun heq => h heq.symm]
      rw [List.map_cons, List.find?_cons_of_neg (by simpa using h), ih]
      simp only [hname]

namespace ViewTree

variable (t : ViewTree)

theorem bodyFor_phase (subject : Subject) (body : String → List Statement) (name : String) :
    (t.phase subject body).bodyFor name =
      body (if name ∈ t.viewNames then name else generalView) := by
  rw [Dispatch.bodyFor, phase, find?_branch]
  by_cases h : name ∈ t.viewNames
  · rw [if_pos h, if_pos h]
  · rw [if_neg h, if_neg h]

theorem mem_viewNames_iff {view : String} :
    view ∈ t.viewNames ↔ t.has view = true ∧ isReserved view = false := by
  have hhas : t.has view = true ↔ view ∈ t.views.map Prod.fst := by
    simp [has, Entries.has]
  rw [viewNames, List.mem_filter, hhas, Bool.not_eq_true']

theorem isConditional_phase_iff (subject : Subject) (body : String → List Statement) :
    (t.phase subject body).isConditional = true ↔
      ∃ view, t.has view = true ∧ isReserved view = false := by
  have hviews : (t.phase subject body).isConditional = true ↔ ∃ view, view ∈ t.viewNames := by
    rw [← List.length_pos_iff_exists_mem, List.length_pos_iff]
    simp [Dispatch.isConditional, phase]
  rw [hviews]
  exact exists_congr fun view => t.mem_viewNames_iff

section Absent

variable {t} {view : String}

theorem get?_eq_none_of_has (h : t.has view = false) : t.get? view = none := by
  rwa [has, Entries.has_eq_isSome_get?, Option.isSome_eq_false_iff,
    Option.isNone_iff_eq_none] at h

theorem effective?_of_absent (h : t.has view = false) (setting : String) :
    t.effective? setting view = t.effective? setting generalView := by
  have hown : t.ownSetting? setting view = none := by
    rw [ownSetting?, layerSetting?_of_get?_eq_none (get?_eq_none_of_has h), Option.filter_none]
  simp only [effective?, generalView, hown, ite_self, ↓reduceIte]

theorem templateStatements_of_absent (h : t.has view = false) :
    t.templateStatements view = t.templateStatements generalView := by
  rw [templateStatements, templateStatements, effective?_of_absent h]

end Absent

theorem bodyFor_templatePhase (name : String) :
    t.templatePhase.bodyFor name =
      t.templateStatements (if isReserved name then generalView else name) := by
  rw [templatePhase, bodyFor_phase]
  cases hreserved : isReserved name with
  | true =>
    have hname : name ∉ t.viewNames := by
      rw [mem_viewNames_iff, hreserved]
      exact fun h => Bool.false_ne_true h.2.symm
    rw [if_neg hname, if_pos rfl]
  | false =>
    rw [if_neg Bool.false_ne_true]
    cases hhas : t.has name with
    | true => rw [if_pos (t.mem_viewNames_iff.2 ⟨hhas, hreserved⟩)]
    | false =>
      have hname : name ∉ t.viewNames := by
        rw [mem_viewNames_iff, hhas]
        exact fun h => Bool.false_ne_true h.1
      rw [if_neg hname, templateStatements_of_absent hhas]

/-- Every name selects the template of its view, and the setup of its view or the general one.
Both phases have the views that are not reserved as their branches, in the order of the tree. -/
theorem bodyFor_procedure (date : Moment) (name : String) :
    (t.procedure date).templatePhase.bodyFor name =
        t.templateStatements (if isReserved name then generalView else name) ∧
      (t.procedure date).setupPhase.bodyFor name =
        t.setupStatements
          (if t.has name = true ∧ isReserved name = false then name else generalView) ∧
      (t.procedure date).templatePhase.names = t.viewNames ∧
      (t.procedure date).setupPhase.names = t.viewNames ∧
      ((t.procedure date).templatePhase.isConditional = true ↔
        ∃ view, t.has view = true ∧ isReserved view = false) ∧
      ((t.procedure date).setupPhase.isConditional = true ↔
        ∃ view, t.has view = true ∧ isReserved view = false) := by
  have hsetup : t.setupPhase.bodyFor name =
      t.setupStatements
        (if t.has name = true ∧ isReserved name = false then name else generalView) := by
    rw [setupPhase, bodyFor_phase]
    simp only [mem_viewNames_iff]
  exact ⟨t.bodyFor_templatePhase name, hsetup, t.names_phase _ _, t.names_phase _ _,
    t.isConditional_phase_iff _ _, t.isConditional_phase_iff _ _⟩

end ViewTree

end ViewLayers
