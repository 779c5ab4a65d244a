import ViewLayers.Layers
import ViewLayers.Proofs.Overlay

/-!
# Settings of merged layers

Each step of merging is described by what it does to the setting of one name in one layer.
The steps are then composed: a view keeps its settings, `default` has none, and `all` has a
joined list for an asset setting and an overlay for any other.
-/

namespace ViewLayers

theorem isReserved_eq_false {view : String} :
    isReserved view = false ↔ view ≠ defaultLayer ∧ view ≠ commonLayer := by
  simp [isReserved]

theorem commonLayer_ne_defaultLayer : commonLayer ≠ defaultLayer := by decide

namespace Value

theorem string_beq_of_ne {a b : String} (h : a ≠ b) :
    (Value.string a == Value.string b) = false := by
  rw [Bool.eq_false_iff, ne_eq, beq_string_iff, Value.string.injEq]
  exact h

theorem substituteItems_eq_map (lookup : String → Option String) (items : List Value) :
    substituteItems lookup items = items.map (substitute lookup) := by
  induction items with
  | nil => rfl
  | cons v vs ih => simp only [substituteItems, ih, List.map_cons]

theorem items_substitute (lookup : String → Option String) (v : Value) :
    (v.substitute lookup).items = v.items.map (substitute lookup) := by
  cases v with
  | list vs => simp only [substitute, items, substituteItems_eq_map]
  | _ => simp only [substitute, items, List.map_nil]

theorem isNull_iff {v : Value} : v.isNull = true ↔ v.untagged = .null := by
  rw [isNull, decide_eq_true_eq]

theorem substitute_eq_null {lookup : String → Option String} {v : Value} :
    v.substitute lookup = .null ↔ v = .null := by
  cases v <;> simp [substitute]

theorem untagged_substitute (lookup : String → Option String) :
    ∀ v : Value, (v.substitute lookup).untagged = v.untagged.substitute lookup
  | .tagged _ v => by simpa only [substitute, untagged] using untagged_substitute lookup v
  | .null | .bool _ | .int _ | .float _ | .string _ | .list _ | .record _ => by
    simp only [substitute, untagged]

theorem isNull_substitute (lookup : String → Option String) (v : Value) :
    (v.substitute lookup).isNull = v.isNull := by
  rw [Bool.eq_iff_iff, isNull_iff, isNull_iff, untagged_substitute, substitute_eq_null]

end Value

namespace Record

theorem substitute_eq_map (lookup : String → Option String) (r : Record) :
    substitute lookup r = r.map fun e => (e.1, e.2.substitute lookup) := by
  induction r with
  | nil => rfl
  | cons e rest ih => simp only [substitute, ih, List.map_cons]

theorem keys_substitute (lookup : String → Option String) (r : Record) :
    Entries.keys (substitute lookup r) = Entries.keys r := by
  rw [substitute_eq_map]
  exact Entries.keys_map_value r fun e => e.2.substitute lookup

theorem distinct_substitute (lookup : String → Option String) {r : Record}
    (h : Entries.Distinct r) : Entries.Distinct (substitute lookup r) := by
  rw [Entries.distinct_iff_pairwise_keys, keys_substitute]
  exact Entries.distinct_iff_pairwise_keys.1 h

theorem setting?_substitute (lookup : String → Option String) (r : Record) (name : String) :
    setting? (substitute lookup r) name = (r.setting? name).map (Value.substitute lookup) := by
  rw [setting?, substitute_eq_map, Entries.get?_map_value]
  rfl

end Record

namespace ViewTree

theorem layerSetting?_of_get?_eq_none {t : ViewTree} {layer : String} (h : t.get? layer = none)
    (name : String) : t.layerSetting? layer name = none := by
  rw [layerSetting?, h, Option.bind_none]

@[simp] theorem setting?_settings (t : ViewTree) (layer name : String) :
    (t.settings layer).setting? name = t.layerSetting? layer name := by
  cases h : t.get? layer with
  | none => rw [layerSetting?_of_get?_eq_none h, settings, h]; rfl
  | some config => rw [settings, layerSetting?, h]; rfl

@[simp] theorem get?_insert_self (t : ViewTree) (view : String) (config : Record) :
    (t.insert view config).get? view = some config :=
  Entries.get?_put_self t.views view config

theorem get?_insert_of_ne (t : ViewTree) {view layer : String} (config : Record)
    (h : layer ≠ view) : (t.insert view config).get? layer = t.get? layer :=
  Entries.get?_put_of_ne t.views config (by simpa using h.symm)

@[simp] theorem get?_remove_self (t : ViewTree) (view : String) :
    (t.remove view).get? view = none :=
  Entries.get?_without_self t.views view

theorem get?_remove_of_ne (t : ViewTree) {view layer : String} (h : layer ≠ view) :
    (t.remove view).get? layer = t.get? layer :=
  Entries.get?_without_of_ne t.views (by simpa using h.symm)

theorem get?_map (f : Record → Record) (t : ViewTree) (layer : String) :
    (t.map f).get? layer = (t.get? layer).map f :=
  Entries.get?_map_value t.views f layer

theorem get?_dropSetting (t : ViewTree) (view setting layer : String) :
    (t.dropSetting view setting).get? layer =
      (t.get? layer).map fun config =>
        if layer = view then Entries.without config (.string setting) else config := by
  obtain ⟨views⟩ := t
  simp only [dropSetting, get?]
  induction views with
  | nil => rfl
  | cons e rest ih =>
    obtain ⟨name, config⟩ := e
    by_cases hn : name = layer
    · subst hn
      by_cases hv : name = view <;> simp [hv]
    · by_cases hv : name = view
      · simp only [List.map_cons, hv, ↓reduceIte]
        rw [hv] at hn
        simpa [hn] using ih
      · simp only [List.map_cons, hv, ↓reduceIte]
        simpa [hn] using ih

theorem layerSetting?_dropSetting (t : ViewTree) (view setting layer name : String) :
    (t.dropSetting view setting).layerSetting? layer name =
      if layer = view ∧ name = setting then none else t.layerSetting? layer name := by
  rw [layerSetting?, get?_dropSetting, layerSetting?]
  cases t.get? layer with
  | none => simp
  | some config =>
    by_cases hv : layer = view
    · by_cases hn : name = setting
      · simp only [hv, hn, Option.map_some, Option.bind_some, ↓reduceIte, and_self]
        exact Entries.get?_without_self config _
      · simp only [hv, hn, Option.map_some, Option.bind_some, ↓reduceIte, and_false]
        exact Entries.get?_without_of_ne config (Value.string_beq_of_ne (Ne.symm hn))
    · simp [hv]

theorem layerSetting?_setSetting (t : ViewTree) (view setting layer name : String)
    (value : Value) :
    (t.setSetting view setting value).layerSetting? layer name =
      if layer = view ∧ name = setting then some value else t.layerSetting? layer name := by
  by_cases hv : layer = view
  · subst hv
    rw [setSetting, layerSetting?, get?_insert_self, Option.bind_some]
    by_cases hn : name = setting
    · simp only [hn, and_self, ↓reduceIte]
      exact Entries.get?_put_self _ _ _
    · simp only [hn, and_false, ↓reduceIte]
      rw [← setting?_settings]
      exact Entries.get?_put_of_ne _ _ (Value.string_beq_of_ne (Ne.symm hn))
  · rw [setSetting, layerSetting?, get?_insert_of_ne t _ hv]
    simp [hv, layerSetting?]

def listed (t : ViewTree) (layer setting : String) : List Value :=
  ((t.layerSetting? layer setting).map Value.items).getD []

def joinedList? (t : ViewTree) (setting : String) : Option Value :=
  match t.layerSetting? defaultLayer setting, t.layerSetting? commonLayer setting with
  | none, none => none
  | _, _ => some (.list (t.listed defaultLayer setting ++ t.listed commonLayer setting))

theorem joinAssetList_eq (t : ViewTree) (setting : String) :
    t.joinAssetList setting =
      match t.joinedList? setting with
      | none => t
      | some value =>
        (t.dropSetting defaultLayer setting).setSetting commonLayer setting value := by
  unfold joinAssetList joinedList? listed
  cases t.layerSetting? defaultLayer setting <;>
    cases t.layerSetting? commonLayer setting <;> rfl

theorem joinAssetLists_eq (t : ViewTree) :
    t.joinAssetLists = (t.joinAssetList "stylesheets").joinAssetList "javascripts" := rfl

theorem joinedList?_eq_none {t : ViewTree} {setting : String} :
    t.joinedList? setting = none ↔
      t.layerSetting? defaultLayer setting = none ∧
        t.layerSetting? commonLayer setting = none := by
  unfold joinedList?
  cases t.layerSetting? defaultLayer setting <;>
    cases t.layerSetting? commonLayer setting <;> simp

theorem eq_list_of_joinedList? {t : ViewTree} {setting : String} {value : Value}
    (h : t.joinedList? setting = some value) :
    value = .list (t.listed defaultLayer setting ++ t.listed commonLayer setting) := by
  unfold joinedList? at h
  split at h
  · exact absurd h (by simp)
  · exact (Option.some.inj h).symm

theorem layerSetting?_joinAssetList (t : ViewTree) (setting layer name : String) :
    (t.joinAssetList setting).layerSetting? layer name =
      if name = setting then
        if layer = commonLayer then t.joinedList? setting
        else if layer = defaultLayer then none
        else t.layerSetting? layer name
      else t.layerSetting? layer name := by
  cases h : t.joinedList? setting with
  | none =>
    obtain ⟨hd, hc⟩ := joinedList?_eq_none.1 h
    simp only [joinAssetList_eq, h]
    by_cases hn : name = setting
    · subst hn
      by_cases hlc : layer = commonLayer
      · simp [hlc, hc]
      · by_cases hld : layer = defaultLayer
        · simp [hld, hd]
        · simp [hlc, hld]
    · simp [hn]
  | some value =>
    simp only [joinAssetList_eq, h, layerSetting?_setSetting, layerSetting?_dropSetting]
    by_cases hn : name = setting
    · by_cases hlc : layer = commonLayer
      · simp [hn, hlc]
      · simp [hn, hlc]
    · simp [hn]

theorem joinedList?_congr {s t : ViewTree} {setting : String}
    (h : ∀ layer, s.layerSetting? layer setting = t.layerSetting? layer setting) :
    s.joinedList? setting = t.joinedList? setting := by
  unfold joinedList? listed
  rw [h, h]

theorem layerSetting?_joinAssetLists_of_not_mem (t : ViewTree) (layer : String) {name : String}
    (hn : name ∉ assetSettings) :
    t.joinAssetLists.layerSetting? layer name = t.layerSetting? layer name := by
  have hs : name ≠ "stylesheets" ∧ name ≠ "javascripts" := by
    simpa [assetSettings] using hn
  rw [joinAssetLists_eq, layerSetting?_joinAssetList, if_neg hs.2, layerSetting?_joinAssetList,
    if_neg hs.1]

theorem layerSetting?_joinAssetLists_of_mem (t : ViewTree) (layer : String) {name : String}
    (hn : name ∈ assetSettings) :
    t.joinAssetLists.layerSetting? layer name =
      if layer = commonLayer then t.joinedList? name
      else if layer = defaultLayer then none
      else t.layerSetting? layer name := by
  have hs : name = "stylesheets" ∨ name = "javascripts" := by
    simpa [assetSettings] using hn
  rw [joinAssetLists_eq]
  rcases hs with rfl | rfl
  · rw [layerSetting?_joinAssetList, if_neg (by decide), layerSetting?_joinAssetList, if_pos rfl]
  · have hfirst : ∀ l, (t.joinAssetList "stylesheets").layerSetting? l "javascripts" =
        t.layerSetting? l "javascripts" := by
      intro l
      rw [layerSetting?_joinAssetList, if_neg (by decide)]
    rw [layerSetting?_joinAssetList, if_pos rfl, joinedList?_congr hfirst, hfirst]

theorem layerSetting?_foldDefault (t : ViewTree) (layer name : String) :
    t.foldDefault.layerSetting? layer name =
      if layer = commonLayer then
        Value.laidOver (t.layerSetting? defaultLayer name) (t.layerSetting? commonLayer name)
      else if layer = defaultLayer then none
      else t.layerSetting? layer name := by
  by_cases hc : layer = commonLayer
  · rw [if_pos hc, hc, foldDefault, layerSetting?, get?_insert_self, Option.bind_some,
      Record.setting?, Record.get?_overlay, ← setting?_settings t, ← setting?_settings t]
    rfl
  · rw [if_neg hc, foldDefault, layerSetting?, get?_insert_of_ne _ _ hc]
    by_cases hd : layer = defaultLayer
    · rw [if_pos hd, hd, get?_remove_self, Option.bind_none]
    · rw [if_neg hd, get?_remove_of_ne t hd, layerSetting?]

theorem layerSetting?_substitute (lookup : String → Option String) (t : ViewTree)
    (layer name : String) :
    (t.substitute lookup).layerSetting? layer name =
      (t.layerSetting? layer name).map (Value.substitute lookup) := by
  rw [layerSetting?, substitute, get?_map, layerSetting?]
  cases t.get? layer with
  | none => rfl
  | some config => exact Record.setting?_substitute lookup config name

section Merged

variable (lookup : String → Option String) (t : ViewTree)

theorem layerSetting?_mergeLayers (layer name : String) :
    (t.mergeLayers lookup).layerSetting? layer name =
      (t.joinAssetLists.foldDefault.layerSetting? layer name).map (Value.substitute lookup) :=
  layerSetting?_substitute lookup _ layer name

theorem layerSetting?_mergeLayers_default (name : String) :
    (t.mergeLayers lookup).layerSetting? defaultLayer name = none := by
  rw [layerSetting?_mergeLayers, layerSetting?_foldDefault, if_neg commonLayer_ne_defaultLayer.symm,
    if_pos rfl, Option.map_none]

theorem layerSetting?_mergeLayers_view {view : String} (hv : isReserved view = false)
    (name : String) :
    (t.mergeLayers lookup).layerSetting? view name =
      (t.layerSetting? view name).map (Value.substitute lookup) := by
  obtain ⟨hd, hc⟩ := isReserved_eq_false.1 hv
  rw [layerSetting?_mergeLayers, layerSetting?_foldDefault, if_neg hc, if_neg hd]
  by_cases hn : name ∈ assetSettings
  · rw [layerSetting?_joinAssetLists_of_mem t view hn, if_neg hc, if_neg hd]
  · rw [layerSetting?_joinAssetLists_of_not_mem t view hn]

theorem layerSetting?_mergeLayers_common {name : String} (hn : name ∉ assetSettings) :
    (t.mergeLayers lookup).layerSetting? commonLayer name =
      (Value.laidOver (t.layerSetting? defaultLayer name)
        (t.layerSetting? commonLayer name)).map (Value.substitute lookup) := by
  rw [layerSetting?_mergeLayers, layerSetting?_foldDefault, if_pos rfl,
    layerSetting?_joinAssetLists_of_not_mem t _ hn, layerSetting?_joinAssetLists_of_not_mem t _ hn]

theorem layerSetting?_mergeLayers_common_of_asset {name : String} (hn : name ∈ assetSettings) :
    (t.mergeLayers lookup).layerSetting? commonLayer name =
      (t.joinedList? name).map (Value.substitute lookup) := by
  -- The list is out of reach of the overlay, since `default` has given its own away.
  rw [layerSetting?_mergeLayers, layerSetting?_foldDefault, if_pos rfl,
    layerSetting?_joinAssetLists_of_mem t _ hn, layerSetting?_joinAssetLists_of_mem t _ hn,
    if_pos rfl, if_neg commonLayer_ne_defaultLayer.symm, if_pos rfl]
  cases t.joinedList? name <;> rfl

end Merged

end ViewTree

end ViewLayers
