import Mathlib
import ViewLayers.Resolve
import ViewLayers.Proofs.Layers.Settings

/-!
# Plain settings across three layers

The setting that a view has after merging, read off the tree as it was written. Null unsets a
setting when a view is asked, but hides the value of `default` when the layers are merged.
-/

namespace ViewLayers.ViewTree

def layerValue? (t : ViewTree) (setting : String) : Option Value :=
  match t.layerSetting? defaultLayer setting, t.layerSetting? commonLayer setting with
  | some (.record base), some (.record entries) => some (.record (Record.overlay base entries))
  | below, none => below
  | _, above => above

theorem layerValue?_eq_laidOver (t : ViewTree) (setting : String) :
    t.layerValue? setting =
      Value.laidOver (t.layerSetting? defaultLayer setting)
        (t.layerSetting? commonLayer setting) := by
  unfold layerValue?
  cases t.layerSetting? defaultLayer setting with
  | none => cases t.layerSetting? commonLayer setting <;> rfl
  | some below =>
    cases t.layerSetting? commonLayer setting with
    | none => cases below <;> rfl
    | some above =>
      cases below with
      | record base =>
        cases above with
        | record entries => exact congrArg some (Value.overlaid_records base entries).symm
        | _ => rfl
      | _ => rfl

section Merged

variable (lookup : String → Option String) (t : ViewTree)

theorem filter_isNull_substitute (o : Option Value) :
    (o.map (Value.substitute lookup)).filter (fun v => !v.isNull) =
      (o.filter fun v => !v.isNull).map (Value.substitute lookup) := by
  cases o with
  | none => rfl
  | some v =>
    have hv := Value.isNull_substitute lookup v
    cases h : v.isNull <;> simp [Option.filter, hv, h]

theorem ownSetting?_mergeLayers_view {view : String} (hv : isReserved view = false)
    (setting : String) :
    (t.mergeLayers lookup).ownSetting? setting view =
      (t.ownSetting? setting view).map (Value.substitute lookup) := by
  rw [ownSetting?, layerSetting?_mergeLayers_view lookup t hv, filter_isNull_substitute]
  rfl

theorem ownSetting?_mergeLayers_common {setting : String} (hs : setting ∉ assetSettings) :
    (t.mergeLayers lookup).ownSetting? setting commonLayer =
      ((t.layerValue? setting).filter fun v => !v.isNull).map (Value.substitute lookup) := by
  rw [ownSetting?, layerSetting?_mergeLayers_common lookup t hs, ← layerValue?_eq_laidOver,
    filter_isNull_substitute]

theorem ownSetting?_mergeLayers_default (setting : String) :
    (t.mergeLayers lookup).ownSetting? setting defaultLayer = none := by
  rw [ownSetting?, layerSetting?_mergeLayers_default]
  rfl

/-- A view's own setting counts unless it is null, then that of the layers unless it is null.
The reserved names are asked for like a view without settings. -/
theorem effective?_mergeLayers {setting : String} (hs : setting ∉ assetSettings)
    (view : String) :
    (t.mergeLayers lookup).effective? setting view =
      ((if view = "" ∨ isReserved view = true then none else t.ownSetting? setting view).or
        ((t.layerValue? setting).filter fun v => !v.isNull)).map (Value.substitute lookup) := by
  have hcommon := ownSetting?_mergeLayers_common lookup t hs
  by_cases he : view = ""
  · simp only [effective?, he, ↓reduceIte, true_or, Option.none_or, hcommon]
  · cases hr : isReserved view with
    | false =>
      have hown := ownSetting?_mergeLayers_view lookup t hr setting
      simp only [effective?, he, ↓reduceIte, Bool.false_eq_true, or_self, hown, hcommon]
      exact Option.map_or.symm
    | true =>
      have hview : view = defaultLayer ∨ view = commonLayer := by simpa [isReserved] using hr
      simp only [effective?, he, ↓reduceIte, or_true, Option.none_or, hcommon]
      rcases hview with rfl | rfl
      · rw [ownSetting?_mergeLayers_default, Option.none_or]
      · rw [hcommon, Option.or_self]

end Merged

def escapingLayers : ViewTree :=
  ⟨[("default", [(.string "escaping", .record [(.string "method", .string "raw"),
        (.string "strategy", .string "on")]), (.string "layout", .string "base")]),
    ("all", [(.string "layout", .null),
      (.string "escaping", .record [(.string "method", .string "%ESC%")])]),
    ("show", [(.string "escaping", .tagged "t" .null)])]⟩

def escConstant (name : String) : Option String := if name = "esc" then some "html" else none

theorem effective?_escapingLayers :
    "escaping" ∉ assetSettings ∧ "layout" ∉ assetSettings ∧
      (escapingLayers.mergeLayers escConstant).effective? "escaping" "show" =
        some (.record [(.string "method", .string "html"), (.string "strategy", .string "on")]) ∧
      (escapingLayers.mergeLayers escConstant).effective? "layout" "show" = none := by
  refine ⟨by decide, by decide, ?_, ?_⟩
  · rw [effective?_mergeLayers escConstant _ (by decide)]
    cbv
  · rw [effective?_mergeLayers escConstant _ (by decide)]
    cbv

end ViewLayers.ViewTree
