import Mathlib.Data.List.Basic
import Mathlib.Data.List.TakeWhile
import ViewLayers.Compile
import ViewLayers.Proofs.Additive.Counter

/-!
# Trees that have a procedure

Only the items of a list beside a record are counted, so only there a counter can run over. A tree
is compiled exactly if it does so for no view and no setting, and the procedure then is the one told
without a bound on numbers.
-/

namespace ViewLayers

/-- There is a number for every item that needs one, and one more. -/
def Value.HasRoomFor : Value → Value → Prop
  | .record r, .list items => Record.HasRoom r items.length
  | .list items, .record _ => items.length < UInt64.size
  | _, _ => True

theorem Value.append?_eq_some_iff {base extra whole : Value} :
    base.append? extra = some whole ↔ base.HasRoomFor extra ∧ base.append extra = whole := by
  cases base with
  | record r =>
    cases extra with
    | list items =>
      rw [append?, Option.map_eq_some_iff]
      simp only [Record.appendItems?_eq_some_iff, HasRoomFor, append, and_assoc]
      simp only [exists_and_left, exists_eq_left]
    | _ => simp [append?, HasRoomFor]
  | list items =>
    cases extra with
    | record more =>
      have hzero : Record.nextIndex [] = 0 := rfl
      have hroom : Record.HasRoom [] items.length ↔ items.length < UInt64.size := by
        rw [Record.hasRoom_iff, hzero, Nat.zero_add]
      rw [append?, Option.map_eq_some_iff]
      simp only [Record.appendItems?_eq_some_iff, HasRoomFor, append, hroom, and_assoc]
      simp only [exists_and_left, exists_eq_left]
    | _ => simp [append?, HasRoomFor]
  | _ => simp [append?, HasRoomFor]

namespace ViewTree

variable {t : ViewTree} {setting view : String}

def HasRoomFor (t : ViewTree) (setting view : String) : Prop :=
  view ≠ "" → view ≠ commonLayer → ∀ own, t.ownSetting? setting view = some own →
    (t.commonPart setting).HasRoomFor own

theorem combined?_eq_some_iff {v : Value} :
    t.combined? setting view = some v ↔
      t.HasRoomFor setting view ∧ t.combined setting view = v := by
  rw [combined?, combined, HasRoomFor]
  by_cases hgeneral : view = "" ∨ view = commonLayer
  · rw [if_pos hgeneral, if_pos hgeneral, Option.some.injEq, iff_and_self]
    exact fun _ hv hc => absurd hgeneral (not_or.2 ⟨hv, hc⟩)
  · rw [if_neg hgeneral, if_neg hgeneral]
    obtain ⟨hv, hc⟩ := not_or.1 hgeneral
    cases t.ownSetting? setting view with
    | none => simp
    | some own =>
      refine Value.append?_eq_some_iff.trans (and_congr_left fun _ => ?_)
      exact ⟨fun h _ _ _ hown => Option.some.inj hown ▸ h, fun h => h hv hc own rfl⟩

theorem isSome_combined?_iff :
    (t.combined? setting view).isSome = true ↔ t.HasRoomFor setting view := by
  simp [Option.isSome_iff_exists, combined?_eq_some_iff]

def additiveSettings : List String :=
  ["components", "http_metas", "metas", "stylesheets", "javascripts"]

theorem setsUp_eq_true_iff :
    t.setsUp view = true ↔ ∀ setting ∈ additiveSettings, t.HasRoomFor setting view := by
  have hfst : (t.additiveNotices view).map Prod.fst = additiveSettings := rfl
  rw [← hfst, List.forall_mem_map]
  simp only [setsUp, List.all_eq_true, isSome_combined?_iff]

theorem noticesUntilOverflow_of_setsUp (h : t.setsUp view = true) :
    t.noticesUntilOverflow view = t.setupNotices view := by
  rw [noticesUntilOverflow, List.takeWhile_eq_self_iff.2 (List.all_eq_true.1 h), setupNotices,
    assetNotices, additiveNotices, List.flatMap_append, List.flatMap_map]
  simp

theorem isCompilable_eq_true_iff :
    t.isCompilable = true ↔
      ∀ view ∈ t.viewNames, ∀ setting ∈ additiveSettings, t.HasRoomFor setting view := by
  simp only [isCompilable, List.all_eq_true, setsUp_eq_true_iff]

theorem reachedViews_of_isCompilable (h : t.isCompilable = true) :
    t.reachedViews = t.viewNames := by
  have hall : ∀ view ∈ t.viewNames, ¬ (!t.setsUp view) = true := by
    intro view hview
    simpa using List.all_eq_true.1 h view hview
  rw [reachedViews, List.findIdx_eq_length.2 (by simpa using hall), List.take_of_length_le]
  exact Nat.le_succ _

theorem procedureNotices_of_isCompilable (h : t.isCompilable = true) :
    t.procedureNotices = t.overflowNotices ++ t.setupNotices generalView := by
  have hviews : ∀ view ∈ t.viewNames, t.noticesUntilOverflow view = t.setupNotices view :=
    fun view hview => noticesUntilOverflow_of_setsUp (List.all_eq_true.1 h view hview)
  have hflat : (t.viewNames.flatMap fun view =>
      .branchBuilt .templateView view :: t.noticesUntilOverflow view) =
        t.viewNames.flatMap fun view => .branchBuilt .templateView view :: t.setupNotices view := by
    refine List.flatMap_congr fun view hview => ?_
    rw [hviews view hview]
  rw [procedureNotices, overflowNotices, reachedViews_of_isCompilable h, hflat, List.append_assoc]
  rfl

end ViewTree

variable {lookup : String → Option String} {now : Moment} {raw : ViewTree} {compiled : Compiled}

/-- A tree is compiled unless the counter runs over for a setting of a view, and what comes out is
what the procedure is without any bound on numbers. -/
theorem compileTree?_eq_some_iff :
    compileTree? lookup now raw = some compiled ↔
      (∀ view ∈ (raw.mergeLayers lookup).viewNames, ∀ setting ∈ ViewTree.additiveSettings,
        (raw.mergeLayers lookup).HasRoomFor setting view) ∧
        compileTree lookup now raw = compiled := by
  rw [compileTree?, ← ViewTree.isCompilable_eq_true_iff]
  exact Option.ite_none_right_eq_some.trans (and_congr_right fun _ => Option.some_inj)

end ViewLayers
