import ViewLayers.Compile

/-!
# What the statements of a view read

A view reads its own settings and those of `all`, and the general case means to read `all`
alone. So trees that agree there give the view the same statements. The layout mode is the
exception: it asks for the settings under the name it is given, and the general case has a
name as well.
-/

namespace ViewLayers

/-- Two trees agree on what a view inherits and on what it sets. The general case sets
nothing. -/
structure ViewTree.Agree (s t : ViewTree) (view : String) : Prop where
  common : s.get? commonLayer = t.get? commonLayer
  own : view ≠ generalView → s.get? view = t.get? view

namespace ViewTree

def furnishing (t : ViewTree) (view : String) : List Statement :=
  t.slotStatements view ++ t.headStatements view ++ t.escapingStatements view
    ++ t.assetStatements view

theorem setupStatements_eq_cons (t : ViewTree) (view : String) :
    t.setupStatements view =
      .applyLayout (t.layoutName? view) (t.layoutMode view) :: t.furnishing view := by
  simp only [setupStatements, layoutStatements, furnishing, List.cons_append, List.nil_append]

def setsLayout (t : ViewTree) (view : String) : Bool :=
  t.mentions "layout" view || t.mentions "has_layout" view

theorem layoutMode_eq_layoutMode_iff (s t : ViewTree) (view : String) :
    s.layoutMode view = t.layoutMode view ↔ s.setsLayout view = t.setsLayout view := by
  change (if s.setsLayout view then LayoutMode.own else .inherited) =
    (if t.setsLayout view then LayoutMode.own else .inherited) ↔ _
  cases s.setsLayout view <;> cases t.setsLayout view <;> simp

section Layer

variable {s t : ViewTree} {layer : String} (h : s.get? layer = t.get? layer)
include h

theorem layerSetting?_congr (setting : String) :
    s.layerSetting? layer setting = t.layerSetting? layer setting := by
  rw [layerSetting?, layerSetting?, h]

theorem ownSetting?_congr (setting : String) :
    s.ownSetting? setting layer = t.ownSetting? setting layer := by
  rw [ownSetting?, ownSetting?, layerSetting?_congr h]

theorem setsLayout_congr : s.setsLayout layer = t.setsLayout layer := by
  simp only [setsLayout, mentions, layerSetting?_congr h]

end Layer

namespace Agree

variable {s t : ViewTree} {view : String}

theorem effective?_eq (h : Agree s t view) (setting : String) :
    s.effective? setting view = t.effective? setting view := by
  have hcommon := ownSetting?_congr h.common setting
  by_cases hv : view = ""
  · simp only [effective?, hv, ↓reduceIte, hcommon]
  · have hown := ownSetting?_congr (h.own hv) setting
    simp only [effective?, hv, ↓reduceIte, hcommon, hown]

theorem combined_eq (h : Agree s t view) (setting : String) :
    s.combined setting view = t.combined setting view := by
  have hcommon : s.commonPart setting = t.commonPart setting := by
    rw [commonPart, commonPart, ownSetting?_congr h.common]
  by_cases hv : view = ""
  · simp only [combined, hv, true_or, ↓reduceIte, hcommon]
  · simp only [combined, ownSetting?_congr (h.own hv), hcommon]

theorem templateStatements_eq (h : Agree s t view) :
    s.templateStatements view = t.templateStatements view := by
  rw [templateStatements, templateStatements, h.effective?_eq]

theorem layoutName?_eq (h : Agree s t view) : s.layoutName? view = t.layoutName? view := by
  rw [layoutName?, layoutName?, h.effective?_eq, h.effective?_eq]

theorem furnishing_eq (h : Agree s t view) : s.furnishing view = t.furnishing view := by
  simp only [furnishing, slotStatements, headStatements, httpMetaStatements,
    metaStatements, escapingStatements, escapingMethod?, assetStatements, assetsOf, h.combined_eq,
    h.effective?_eq]

theorem setupStatements_eq_iff (h : Agree s t view) :
    s.setupStatements view = t.setupStatements view ↔ s.setsLayout view = t.setsLayout view := by
  rw [setupStatements_eq_cons, setupStatements_eq_cons, h.layoutName?_eq, h.furnishing_eq,
    ← layoutMode_eq_layoutMode_iff]
  simp

end Agree

end ViewTree

end ViewLayers
