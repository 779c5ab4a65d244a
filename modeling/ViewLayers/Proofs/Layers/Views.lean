import ViewLayers.Proofs.Layers.Merged

/-!
# Views and keys of merged layers

Merging takes `default` away and sees to it that there is an `all`. Every other view stays where
it is and keeps its keys. The keys of `all` come from both layers, those of `default` first, but
an asset list goes from `default` to the place that `all` has for it, or behind everything else.
-/

namespace ViewLayers

def Value.isAssetKey (k : Value) : Bool := assetSettings.any fun setting => k == .string setting

namespace ViewTree

def names (t : ViewTree) : List String := Entries.keys t.views

def ownViews (t : ViewTree) : Entries String Record := t.views.filter fun e => !isReserved e.1

/-- The keys of `all` after merging: those of `default` but for the assets, those that `all`
has besides, and the assets that only `default` has. -/
def commonKeys (t : ViewTree) : List Value :=
  let below := t.settings defaultLayer
  let above := t.settings commonLayer
  (Entries.keys below).filter (fun k => !k.isAssetKey)
    ++ (Entries.keys above).filter (fun k => k.isAssetKey || !Entries.has below k)
    ++ (assetSettings.filter fun setting =>
      Entries.has below (.string setting) && !Entries.has above (.string setting)).map .string

section Names

variable (t : ViewTree)

theorem names_insert (view : String) (config : Record) :
    (t.insert view config).names = t.names ++ if t.has view then [] else [view] :=
  Entries.keys_put t.views view config

@[simp] theorem names_remove (view : String) :
    (t.remove view).names = t.names.filter fun name => !(name == view) :=
  Entries.keys_without t.views view

theorem names_map (f : Record → Record) : (t.map f).names = t.names :=
  Entries.keys_map_value t.views fun e => f e.2

@[simp] theorem names_dropSetting (view setting : String) :
    (t.dropSetting view setting).names = t.names := by
  rw [names, dropSetting, Entries.keys, List.map_map]
  refine List.map_congr_left fun e _ => ?_
  simp only [Function.comp_apply]
  split <;> rfl

theorem has_insert (view : String) (config : Record) (name : String) :
    (t.insert view config).has name = (t.has name || view == name) :=
  Entries.has_put t.views view config name

theorem has_remove_of_ne {view name : String} (h : name ≠ view) :
    (t.remove view).has name = t.has name := by
  have hne : (view == name) = false := by simpa using h.symm
  rw [has, remove, Entries.has_without, hne, Bool.not_false, Bool.true_and, has]

theorem has_congr {s t : ViewTree} (h : s.names = t.names) (name : String) :
    s.has name = t.has name := by
  rw [has, Entries.has_eq_any_keys, has, Entries.has_eq_any_keys]
  exact congrArg (List.any · (· == name)) h

def namesWithCommon : List String :=
  t.names ++ if t.has commonLayer then [] else [commonLayer]

theorem namesWithCommon_congr {s t : ViewTree} (h : s.names = t.names) :
    s.namesWithCommon = t.namesWithCommon := by
  rw [namesWithCommon, namesWithCommon, has_congr h, h]

theorem namesWithCommon_insert (config : Record) :
    (t.insert commonLayer config).namesWithCommon = t.namesWithCommon := by
  rw [namesWithCommon, has_insert, BEq.rfl, Bool.or_true, if_pos rfl, List.append_nil,
    names_insert, namesWithCommon]

theorem namesWithCommon_joinAssetList (setting : String) :
    (t.joinAssetList setting).namesWithCommon = t.namesWithCommon := by
  rw [joinAssetList_eq]
  cases t.joinedList? setting with
  | none => rfl
  | some value =>
    have hdrop := names_dropSetting t defaultLayer setting
    exact (namesWithCommon_insert _ _).trans (namesWithCommon_congr hdrop)

theorem names_foldDefault :
    t.foldDefault.names = t.namesWithCommon.filter fun name => !(name == defaultLayer) := by
  have hcommon : (t.remove defaultLayer).has commonLayer = t.has commonLayer :=
    has_remove_of_ne t commonLayer_ne_defaultLayer
  rw [foldDefault, names_insert, names_remove, hcommon, namesWithCommon, List.filter_append]
  cases t.has commonLayer <;> rfl

theorem names_mergeLayers (lookup : String → Option String) :
    (t.mergeLayers lookup).names =
      (t.names.filter fun name => !(name == defaultLayer))
        ++ if t.has commonLayer then [] else [commonLayer] := by
  rw [mergeLayers, substitute, names_map, names_foldDefault, joinAssetLists_eq,
    namesWithCommon_joinAssetList, namesWithCommon_joinAssetList, namesWithCommon,
    List.filter_append]
  cases t.has commonLayer <;> rfl

end Names

section OwnViews

variable (t : ViewTree)

theorem ownViews_insert {view : String} (config : Record) (h : isReserved view = true) :
    (t.insert view config).ownViews = t.ownViews := by
  have hview : (!isReserved view) = false := by rw [h, Bool.not_true]
  refine Entries.filter_key_put t.views config (fun name => !isReserved name) hview ?_
  intro name hname
  rwa [eq_of_beq hname]

theorem ownViews_remove {view : String} (h : isReserved view = true) :
    (t.remove view).ownViews = t.ownViews := by
  rw [ownViews, remove, Entries.without, List.filter_filter]
  refine List.filter_congr fun e _ => ?_
  by_cases hview : e.1 = view
  · rw [hview, h, Bool.not_true, Bool.false_and]
  · simp [hview]

theorem ownViews_dropSetting {view : String} (setting : String) (h : isReserved view = true) :
    (t.dropSetting view setting).ownViews = t.ownViews := by
  obtain ⟨views⟩ := t
  simp only [ownViews, dropSetting]
  induction views with
  | nil => rfl
  | cons e rest ih =>
    by_cases hview : e.1 = view
    · have he : isReserved e.1 = true := by rw [hview, h]
      simpa [hview, h] using ih
    · simp only [List.map_cons, hview, ↓reduceIte, List.filter_cons, ih]

theorem ownViews_map (f : Record → Record) :
    (t.map f).ownViews = t.ownViews.map fun e => (e.1, f e.2) := by
  rw [ownViews, map, List.filter_map]
  rfl

theorem ownViews_joinAssetList (setting : String) :
    (t.joinAssetList setting).ownViews = t.ownViews := by
  rw [joinAssetList_eq]
  cases t.joinedList? setting with
  | none => rfl
  | some value =>
    have hdrop : (t.dropSetting defaultLayer setting).ownViews = t.ownViews :=
      ownViews_dropSetting t setting rfl
    exact (ownViews_insert _ _ rfl).trans hdrop

theorem ownViews_mergeLayers (lookup : String → Option String) :
    (t.mergeLayers lookup).ownViews =
      t.ownViews.map fun e => (e.1, Record.substitute lookup e.2) := by
  rw [mergeLayers, substitute, ownViews_map, foldDefault, ownViews_insert _ _ rfl,
    ownViews_remove _ rfl, joinAssetLists_eq, ownViews_joinAssetList, ownViews_joinAssetList]

theorem viewNames_eq_keys_ownViews : t.viewNames = Entries.keys t.ownViews := by
  rw [viewNames, ownViews, Entries.keys_filter_key t.views fun name => !isReserved name]
  rfl

theorem viewNames_mergeLayers (lookup : String → Option String) :
    (t.mergeLayers lookup).viewNames = t.viewNames := by
  rw [viewNames_eq_keys_ownViews, ownViews_mergeLayers, viewNames_eq_keys_ownViews]
  exact Entries.keys_map_value t.ownViews fun e => Record.substitute lookup e.2

end OwnViews

section CommonKeys

variable (t : ViewTree)

@[simp] theorem settings_insert_self (view : String) (config : Record) :
    (t.insert view config).settings view = config := by
  rw [settings, get?_insert_self, Option.getD_some]

theorem settings_insert_of_ne {view layer : String} (config : Record) (h : layer ≠ view) :
    (t.insert view config).settings layer = t.settings layer := by
  rw [settings, get?_insert_of_ne t config h, settings]

theorem settings_dropSetting (view setting layer : String) :
    (t.dropSetting view setting).settings layer =
      if layer = view then Entries.without (t.settings layer) (.string setting)
      else t.settings layer := by
  rw [settings, get?_dropSetting, settings]
  cases t.get? layer with
  | none => split <;> rfl
  | some config => split <;> rfl

theorem layerSetting?_eq_none_iff {layer setting : String} :
    t.layerSetting? layer setting = none ↔
      Entries.has (t.settings layer) (.string setting) = false := by
  rw [← setting?_settings, Record.setting?, Entries.has_eq_isSome_get?,
    Option.isSome_eq_false_iff, Option.isNone_iff_eq_none]

theorem settings_joinAssetList_default (setting : String) :
    (t.joinAssetList setting).settings defaultLayer =
      Entries.without (t.settings defaultLayer) (.string setting) := by
  rw [joinAssetList_eq]
  cases h : t.joinedList? setting with
  | none =>
    have hnone := (joinedList?_eq_none.1 h).1
    rw [← setting?_settings, Record.setting?] at hnone
    exact (Entries.without_of_get?_eq_none hnone).symm
  | some value =>
    simp only [setSetting]
    rw [settings_insert_of_ne _ _ commonLayer_ne_defaultLayer.symm, settings_dropSetting,
      if_pos rfl]

theorem keys_joinAssetList_common (setting : String) :
    Entries.keys ((t.joinAssetList setting).settings commonLayer) =
      Entries.keys (t.settings commonLayer) ++
        if Entries.has (t.settings defaultLayer) (.string setting) &&
          !Entries.has (t.settings commonLayer) (.string setting) then [.string setting]
        else [] := by
  rw [joinAssetList_eq]
  cases h : t.joinedList? setting with
  | none =>
    have hnone := t.layerSetting?_eq_none_iff.1 (joinedList?_eq_none.1 h).1
    simp [hnone]
  | some value =>
    simp only [setSetting]
    rw [settings_insert_self, settings_dropSetting, if_neg commonLayer_ne_defaultLayer,
      Entries.keys_put]
    cases hc : Entries.has (t.settings commonLayer) (.string setting) with
    | true => simp
    | false =>
      cases hd : Entries.has (t.settings defaultLayer) (.string setting) with
      | true => simp
      | false =>
        have hjoined := joinedList?_eq_none.2
          ⟨t.layerSetting?_eq_none_iff.2 hd, t.layerSetting?_eq_none_iff.2 hc⟩
        rw [h] at hjoined
        cases hjoined

theorem has_settings_joinAssetList_of_ne {setting name : String} (layer : String)
    (h : name ≠ setting) :
    Entries.has ((t.joinAssetList setting).settings layer) (.string name) =
      Entries.has (t.settings layer) (.string name) := by
  have hsame := layerSetting?_joinAssetList t setting layer name
  rw [if_neg h, ← setting?_settings, ← setting?_settings, Record.setting?, Record.setting?] at hsame
  rw [Entries.has_eq_isSome_get?, Entries.has_eq_isSome_get?, hsame]

theorem settings_joinAssetLists_default :
    t.joinAssetLists.settings defaultLayer =
      Entries.without (Entries.without (t.settings defaultLayer) (.string "stylesheets"))
        (.string "javascripts") := by
  rw [joinAssetLists_eq, settings_joinAssetList_default, settings_joinAssetList_default]

theorem has_settings_joinAssetLists_default (k : Value) :
    Entries.has (t.joinAssetLists.settings defaultLayer) k =
      (!k.isAssetKey && Entries.has (t.settings defaultLayer) k) := by
  rw [settings_joinAssetLists_default, Entries.has_without, Entries.has_without, ← Bool.and_assoc,
    ← Bool.not_or, Value.isAssetKey, assetSettings, List.any_cons, List.any_cons, List.any_nil,
    Bool.or_false, BEq.comm (a := k), BEq.comm (a := k), Bool.or_comm]

theorem keys_joinAssetLists_default :
    Entries.keys (t.joinAssetLists.settings defaultLayer) =
      (Entries.keys (t.settings defaultLayer)).filter fun k => !k.isAssetKey := by
  rw [settings_joinAssetLists_default, Entries.keys_without, Entries.keys_without,
    List.filter_filter]
  refine List.filter_congr fun k _ => ?_
  rw [← Bool.not_or, Bool.or_comm, Value.isAssetKey, assetSettings, List.any_cons, List.any_cons,
    List.any_nil, Bool.or_false]

theorem keys_joinAssetLists_common :
    Entries.keys (t.joinAssetLists.settings commonLayer) =
      Entries.keys (t.settings commonLayer) ++
        (assetSettings.filter fun setting =>
          Entries.has (t.settings defaultLayer) (.string setting) &&
            !Entries.has (t.settings commonLayer) (.string setting)).map .string := by
  have hne : "javascripts" ≠ "stylesheets" := by decide
  rw [joinAssetLists_eq, keys_joinAssetList_common, keys_joinAssetList_common,
    has_settings_joinAssetList_of_ne t _ hne, has_settings_joinAssetList_of_ne t _ hne,
    List.append_assoc, assetSettings]
  refine congrArg _ ?_
  simp only [List.filter_cons, List.filter_nil]
  split <;> split <;> rfl

theorem keys_mergeLayers_common (lookup : String → Option String) :
    Entries.keys ((t.mergeLayers lookup).settings commonLayer) = t.commonKeys := by
  -- No asset list is left in `default`, so none of `all` is held back.
  have hasset : ∀ setting ∈ assetSettings, (Value.string setting).isAssetKey = true := by decide
  rw [mergeLayers, settings_substitute, Record.keys_substitute, foldDefault, settings_insert_self,
    Record.keys_overlay, keys_joinAssetLists_default, keys_joinAssetLists_common,
    List.filter_append, commonKeys, List.append_assoc]
  simp only [has_settings_joinAssetLists_default, Bool.not_and, Bool.not_not]
  refine congrArg _ (congrArg _ (List.filter_eq_self.2 ?_))
  intro k hk
  obtain ⟨setting, hsetting, rfl⟩ := List.mem_map.1 hk
  rw [hasset setting (List.mem_filter.1 hsetting).1, Bool.true_or]

end CommonKeys

/-- Merging keeps the views, their places and their keys. The first equation gives the places of
all names, the second the settings of the views, and the third the keys of `all`. -/
theorem views_mergeLayers (lookup : String → Option String) (t : ViewTree) :
    let merged := t.mergeLayers lookup
    merged.get? defaultLayer = none ∧ (merged.get? commonLayer).isSome ∧
      merged.names =
        (t.names.filter fun name => !(name == defaultLayer))
          ++ (if t.has commonLayer then [] else [commonLayer]) ∧
      merged.ownViews =
        t.ownViews.map (fun view => (view.1, view.2.map fun e => (e.1, e.2.substitute lookup))) ∧
      Entries.keys (merged.settings commonLayer) = t.commonKeys := by
  refine ⟨get?_mergeLayers_default lookup t, isSome_get?_mergeLayers_common lookup t,
    names_mergeLayers t lookup, ?_, keys_mergeLayers_common t lookup⟩
  rw [ownViews_mergeLayers]
  refine List.map_congr_left fun view _ => ?_
  rw [Record.substitute_eq_map]

end ViewTree

end ViewLayers
