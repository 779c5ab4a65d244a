import ViewLayers.Compile
import ViewLayers.Proofs.Layers.Substitution

/-!
# Merged trees

Merging brings a tree into a form that it then leaves alone: no `default`, an `all`, and in
`all` nothing but lists for the assets. The trees of this form are exactly those that merging
without constants keeps.
-/

namespace ViewLayers.ViewTree

/-- The form of a tree in which `all` alone stands below the views. -/
structure IsMerged (t : ViewTree) : Prop where
  default_absent : t.get? defaultLayer = none
  common_present : (t.get? commonLayer).isSome
  assets_listed : ∀ setting ∈ assetSettings, ∀ v,
    t.layerSetting? commonLayer setting = some v → v = .list v.items

section Reached

variable (lookup : String → Option String) (t : ViewTree)

@[simp] theorem get?_mergeLayers_default : (t.mergeLayers lookup).get? defaultLayer = none := by
  rw [mergeLayers, substitute, get?_map, foldDefault,
    get?_insert_of_ne _ _ commonLayer_ne_defaultLayer.symm, get?_remove_self, Option.map_none]

@[simp] theorem isSome_get?_mergeLayers_common :
    ((t.mergeLayers lookup).get? commonLayer).isSome = true := by
  rw [mergeLayers, substitute, get?_map, foldDefault, get?_insert_self, Option.map_some,
    Option.isSome_some]

theorem isMerged_mergeLayers : (t.mergeLayers lookup).IsMerged where
  default_absent := get?_mergeLayers_default lookup t
  common_present := isSome_get?_mergeLayers_common lookup t
  assets_listed := by
    intro setting hs v hv
    rw [layerSetting?_mergeLayers_common_of_asset lookup t hs] at hv
    obtain ⟨joined, hjoined, rfl⟩ := Option.map_eq_some_iff.1 hv
    rw [eq_list_of_joinedList? hjoined, Value.substitute, Value.items]

end Reached

section Kept

variable {t : ViewTree}

theorem dropSetting_of_get?_eq_none {view : String} (h : t.get? view = none)
    (setting : String) : t.dropSetting view setting = t := by
  refine congrArg ViewTree.mk ((List.map_congr_left fun e he => ?_).trans (List.map_id t.views))
  have hne : e.1 ≠ view := by simpa using Entries.beq_eq_false_of_get?_eq_none h he
  rw [if_neg hne, id_eq]

theorem foldDefault_of_get?_eq_none (h : t.get? defaultLayer = none) :
    t.foldDefault = t.insert commonLayer (t.settings commonLayer) := by
  have hremove : t.remove defaultLayer = t :=
    congrArg ViewTree.mk (Entries.without_of_get?_eq_none h)
  have hbelow : t.settings defaultLayer = [] := by rw [settings, h, Option.getD_none]
  rw [foldDefault, hremove, hbelow, Record.nil_overlay]

theorem setSetting_of_layerSetting? {layer setting : String} {value : Value}
    (h : t.layerSetting? layer setting = some value) :
    t.setSetting layer setting value = t := by
  obtain ⟨config, hconfig, hvalue⟩ := Option.bind_eq_some_iff.1 h
  have hput : Entries.put config (.string setting) value = config :=
    Entries.put_of_get?_eq_some hvalue
  rw [setSetting, settings, hconfig, Option.getD_some, hput]
  exact congrArg ViewTree.mk (Entries.put_of_get?_eq_some hconfig)

namespace IsMerged

variable (h : t.IsMerged)
include h

theorem joinAssetList_eq_self {setting : String} (hs : setting ∈ assetSettings) :
    t.joinAssetList setting = t := by
  have hd := layerSetting?_of_get?_eq_none h.default_absent setting
  -- Nothing comes in front, and what is there is a list without a tag already.
  have hjoined : t.joinedList? setting = t.layerSetting? commonLayer setting := by
    cases hc : t.layerSetting? commonLayer setting with
    | none => exact joinedList?_eq_none.2 ⟨hd, hc⟩
    | some value =>
      rw [h.assets_listed setting hs value hc]
      simp [joinedList?, listed, hd, hc]
  rw [joinAssetList_eq, hjoined]
  cases hc : t.layerSetting? commonLayer setting with
  | none => rfl
  | some value =>
    rw [dropSetting_of_get?_eq_none h.default_absent]
    exact setSetting_of_layerSetting? hc

theorem joinAssetLists_eq_self : t.joinAssetLists = t := by
  rw [joinAssetLists_eq, h.joinAssetList_eq_self (by decide), h.joinAssetList_eq_self (by decide)]

theorem foldDefault_eq_self : t.foldDefault = t := by
  obtain ⟨config, hconfig⟩ := Option.isSome_iff_exists.1 h.common_present
  rw [foldDefault_of_get?_eq_none h.default_absent, settings, hconfig, Option.getD_some]
  exact congrArg ViewTree.mk (Entries.put_of_get?_eq_some hconfig)

end IsMerged

theorem mergeLayers_eq_self_iff : t.mergeLayers noConstants = t ↔ t.IsMerged := by
  constructor
  · intro h
    exact h ▸ isMerged_mergeLayers noConstants t
  · intro h
    rw [mergeLayers, h.joinAssetLists_eq_self, h.foldDefault_eq_self, substitute_noConstants]

end Kept

/-- A merged tree is kept by a second merge, and so is the procedure that it is compiled to. -/
theorem mergeLayers_mergeLayers (lookup : String → Option String) (t : ViewTree) :
    (t.mergeLayers lookup).mergeLayers noConstants = t.mergeLayers lookup ∧
      ∀ date : Moment,
        (compileTree noConstants date (compileTree lookup date t).merged).procedure =
          (compileTree lookup date t).procedure := by
  have hfixed : (t.mergeLayers lookup).mergeLayers noConstants = t.mergeLayers lookup :=
    mergeLayers_eq_self_iff.2 (isMerged_mergeLayers lookup t)
  refine ⟨hfixed, fun date => ?_⟩
  simp only [compileTree, hfixed]

end ViewLayers.ViewTree
