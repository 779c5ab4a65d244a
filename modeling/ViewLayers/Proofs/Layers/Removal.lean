import ViewLayers.Proofs.Layers.Settings

/-!
# Taking a view away from layers

No step of merging reads, moves or renames a view that is not reserved. So such a view can be
taken away before or after merging, wherever it stands, and the rest of the merged tree is the
same.
-/

namespace ViewLayers.ViewTree

variable (t : ViewTree)

section Operations

variable {view layer : String}

theorem remove_insert_of_ne (config : Record) (h : layer ≠ view) :
    (t.insert layer config).remove view = (t.remove view).insert layer config :=
  congrArg ViewTree.mk (Entries.without_put_of_ne t.views config (by simpa using h))

theorem remove_remove (view layer : String) :
    (t.remove layer).remove view = (t.remove view).remove layer :=
  congrArg ViewTree.mk (Entries.without_comm t.views layer view)

theorem remove_map (f : Record → Record) (view : String) :
    (t.map f).remove view = (t.remove view).map f :=
  congrArg ViewTree.mk (Entries.without_map t.views (fun e => (e.1, f e.2)) (fun _ => rfl) view)

theorem remove_dropSetting (view layer setting : String) :
    (t.dropSetting layer setting).remove view = (t.remove view).dropSetting layer setting := by
  refine congrArg ViewTree.mk (Entries.without_map t.views _ ?_ view)
  intro e
  split <;> rfl

theorem settings_remove_of_ne (h : layer ≠ view) :
    (t.remove view).settings layer = t.settings layer := by
  rw [settings, get?_remove_of_ne t h, settings]

theorem layerSetting?_remove_of_ne (h : layer ≠ view) (setting : String) :
    (t.remove view).layerSetting? layer setting = t.layerSetting? layer setting := by
  rw [layerSetting?, get?_remove_of_ne t h, layerSetting?]

theorem remove_setSetting_of_ne (setting : String) (value : Value) (h : layer ≠ view) :
    (t.setSetting layer setting value).remove view =
      (t.remove view).setSetting layer setting value := by
  rw [setSetting, remove_insert_of_ne t _ h, setSetting, settings_remove_of_ne t h]

end Operations

section Merging

variable {view : String} (hv : isReserved view = false)
include hv

theorem remove_joinAssetList (setting : String) :
    (t.joinAssetList setting).remove view = (t.remove view).joinAssetList setting := by
  obtain ⟨hd, hc⟩ := isReserved_eq_false.1 hv
  have hjoined : (t.remove view).joinedList? setting = t.joinedList? setting := by
    simp only [joinedList?, listed, layerSetting?_remove_of_ne t hd.symm,
      layerSetting?_remove_of_ne t hc.symm]
  rw [joinAssetList_eq, joinAssetList_eq, hjoined]
  cases t.joinedList? setting with
  | none => rfl
  | some value =>
    simp only [remove_setSetting_of_ne _ _ _ hc.symm, remove_dropSetting]

theorem remove_joinAssetLists : t.joinAssetLists.remove view = (t.remove view).joinAssetLists := by
  rw [joinAssetLists_eq, remove_joinAssetList _ hv, remove_joinAssetList _ hv, joinAssetLists_eq]

theorem remove_foldDefault : t.foldDefault.remove view = (t.remove view).foldDefault := by
  obtain ⟨hd, hc⟩ := isReserved_eq_false.1 hv
  rw [foldDefault, remove_insert_of_ne _ _ hc.symm, remove_remove, foldDefault,
    settings_remove_of_ne t hd.symm, settings_remove_of_ne t hc.symm]

theorem remove_mergeLayers (lookup : String → Option String) :
    (t.mergeLayers lookup).remove view = (t.remove view).mergeLayers lookup := by
  rw [mergeLayers, substitute, remove_map, remove_foldDefault _ hv, remove_joinAssetLists t hv,
    mergeLayers, substitute]

end Merging

end ViewLayers.ViewTree
