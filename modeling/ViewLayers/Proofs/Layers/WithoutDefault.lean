import ViewLayers.Proofs.Layers.Merged

/-!
# Layers without `default`

Where nothing lies below `all`, merging has nothing to lay over and moves nothing. It still
makes lists of the asset settings of `all`: one that is no list becomes an empty list in its
place. That and an empty `all` at the end, for a tree that has none, are all that changes.
-/

namespace ViewLayers

namespace Entries

variable {κ β : Type} [BEq κ]

def modify : Entries κ β → κ → (β → β) → Entries κ β
  | [], _, _ => []
  | (l, v) :: rest, k, f => if l == k then (l, f v) :: rest else (l, v) :: modify rest k f

theorem put_eq_modify {es : Entries κ β} {k : κ} {v : β} (h : get? es k = some v) (f : β → β) :
    put es k (f v) = modify es k f := by
  induction es with
  | nil => simp at h
  | cons e rest ih =>
    obtain ⟨l, w⟩ := e
    by_cases hk : (l == k) = true
    · simp only [get?, hk, ↓reduceIte, Option.some.injEq] at h
      simp only [put, modify, hk, ↓reduceIte, h]
    · simp only [get?, hk, ↓reduceIte, Bool.false_eq_true] at h
      simp only [put, modify, hk, ↓reduceIte, Bool.false_eq_true, ih h]

theorem modify_eq_self {es : Entries κ β} {k : κ} {f : β → β}
    (h : ∀ v, get? es k = some v → f v = v) : modify es k f = es := by
  induction es with
  | nil => rfl
  | cons e rest ih =>
    obtain ⟨l, w⟩ := e
    by_cases hk : (l == k) = true
    · have hw : f w = w := h w (by simp [hk])
      simp only [modify, hk, ↓reduceIte, hw]
    · have hrest : ∀ v, get? rest k = some v → f v = v := by
        intro v hv
        exact h v (by simpa [hk] using hv)
      simp only [modify, hk, ↓reduceIte, Bool.false_eq_true, ih hrest]

theorem modify_modify (es : Entries κ β) (k : κ) (f g : β → β) :
    modify (modify es k f) k g = modify es k fun v => g (f v) := by
  induction es with
  | nil => rfl
  | cons e rest ih =>
    by_cases hk : (e.1 == k) = true
    · simp [modify, hk]
    · simpa [modify, hk] using ih

theorem modify_put_self [ReflBEq κ] (es : Entries κ β) (k : κ) (v : β) (f : β → β) :
    modify (put es k v) k f = put es k (f v) := by
  induction es with
  | nil => simp [modify]
  | cons e rest ih =>
    by_cases hk : (e.1 == k) = true
    · simp [modify, hk]
    · simpa [modify, hk] using ih

theorem keys_modify (es : Entries κ β) (k : κ) (f : β → β) : keys (modify es k f) = keys es := by
  induction es with
  | nil => rfl
  | cons e rest ih =>
    by_cases hk : (e.1 == k) = true
    · simp [modify, keys, hk]
    · simpa [modify, keys, hk] using ih

theorem has_modify (es : Entries κ β) (k : κ) (f : β → β) (l : κ) :
    has (modify es k f) l = has es l := by
  rw [has_eq_any_keys, keys_modify, ← has_eq_any_keys]

theorem get?_modify_of_ne [EquivBEq κ] (es : Entries κ β) {k l : κ} (f : β → β)
    (h : (k == l) = false) : get? (modify es k f) l = get? es l := by
  induction es with
  | nil => rfl
  | cons e rest ih =>
    by_cases hk : (e.1 == k) = true
    · have hl : (e.1 == l) = false := by rw [BEq.congr_left hk]; exact h
      simp [modify, hk, hl]
    · simp only [modify, hk, ↓reduceIte, get?, ih, Bool.false_eq_true]

end Entries

def Value.asList (v : Value) : Value := .list v.items

def Record.listAssets (config : Record) : Record :=
  assetSettings.foldl (fun r setting => Entries.modify r (.string setting) Value.asList) config

namespace ViewTree

def modify (t : ViewTree) (view : String) (f : Record → Record) : ViewTree :=
  ⟨Entries.modify t.views view f⟩

theorem insert_settings (t : ViewTree) (view : String) :
    t.insert view (t.settings view) = t.ensure view := by
  cases h : t.get? view with
  | none =>
    have hhas : t.has view = false := by
      rw [has, Entries.has_eq_isSome_get?, ← get?, h, Option.isSome_none]
    rw [settings, h, Option.getD_none, ensure, hhas, if_neg Bool.false_ne_true]
  | some config =>
    have hhas : t.has view = true := by
      rw [has, Entries.has_eq_isSome_get?, ← get?, h, Option.isSome_some]
    rw [settings, h, Option.getD_some, ensure, if_pos hhas]
    exact congrArg ViewTree.mk (Entries.put_of_get?_eq_some h)

theorem ensure_modify (t : ViewTree) {view : String} {f : Record → Record} (hf : f [] = []) :
    (t.modify view f).ensure view = (t.ensure view).modify view f := by
  have hhas : (t.modify view f).has view = t.has view := Entries.has_modify t.views view f view
  cases h : t.has view with
  | true => rw [ensure, hhas, h, if_pos rfl, ensure, h, if_pos rfl]
  | false =>
    -- The edit finds no layer before one is added, and an empty one afterwards.
    have hnone : Entries.get? t.views view = none := by
      rwa [has, Entries.has_eq_isSome_get?, Option.isSome_eq_false_iff,
        Option.isNone_iff_eq_none] at h
    have hsame : t.modify view f = t :=
      congrArg ViewTree.mk (Entries.modify_eq_self fun v hv => by simp [hnone] at hv)
    have hput : Entries.modify (Entries.put t.views view []) view f =
        Entries.put t.views view [] := by
      rw [Entries.modify_put_self, hf]
    rw [hsame, ensure, h, if_neg Bool.false_ne_true]
    exact congrArg ViewTree.mk hput.symm

@[simp] theorem ensure_ensure (t : ViewTree) (view : String) :
    (t.ensure view).ensure view = t.ensure view := by
  have hhas : (t.ensure view).has view = true := by
    cases h : t.has view with
    | true => rw [ensure, h, if_pos rfl, h]
    | false =>
      rw [ensure, h, if_neg Bool.false_ne_true, has, Entries.has_eq_isSome_get?]
      exact congrArg Option.isSome (get?_insert_self t view [])
  exact if_pos hhas

section DefaultAbsent

variable {t : ViewTree} (h : t.get? defaultLayer = none)
include h

theorem joinAssetList_of_get?_eq_none (setting : String) :
    t.joinAssetList setting =
      t.modify commonLayer fun config =>
        Entries.modify config (.string setting) Value.asList := by
  have hd := layerSetting?_of_get?_eq_none h setting
  cases hc : t.layerSetting? commonLayer setting with
  | none =>
    have hsame : ∀ config, t.get? commonLayer = some config →
        Entries.modify config (.string setting) Value.asList = config := by
      intro config hconfig
      refine Entries.modify_eq_self fun v hv => ?_
      rw [layerSetting?, hconfig, Option.bind_some, Record.setting?, hv] at hc
      exact absurd hc (by simp)
    rw [joinAssetList_eq, joinedList?_eq_none.2 ⟨hd, hc⟩]
    exact congrArg ViewTree.mk (Entries.modify_eq_self hsame).symm
  | some value =>
    obtain ⟨config, hconfig, hvalue⟩ := Option.bind_eq_some_iff.1 hc
    have hjoined : t.joinedList? setting = some value.asList := by
      simp [joinedList?, listed, hd, hc, Value.asList]
    have hput : Entries.put config (.string setting) value.asList =
        Entries.modify config (.string setting) Value.asList :=
      Entries.put_eq_modify hvalue Value.asList
    rw [joinAssetList_eq, hjoined]
    simp only [dropSetting_of_get?_eq_none h, setSetting, settings, hconfig, Option.getD_some, hput]
    exact congrArg ViewTree.mk (Entries.put_eq_modify hconfig fun config =>
      Entries.modify config (.string setting) Value.asList)

theorem get?_modify_common_default (f : Record → Record) :
    (t.modify commonLayer f).get? defaultLayer = none := by
  rw [← h]
  exact Entries.get?_modify_of_ne t.views f (by decide)

theorem joinAssetLists_of_get?_eq_none :
    t.joinAssetLists = t.modify commonLayer Record.listAssets := by
  rw [joinAssetLists_eq, joinAssetList_of_get?_eq_none h,
    joinAssetList_of_get?_eq_none (get?_modify_common_default h _)]
  exact congrArg ViewTree.mk (Entries.modify_modify ..)

theorem mergeLayers_eq_modify_ensure :
    t.mergeLayers noConstants = (t.ensure commonLayer).modify commonLayer Record.listAssets := by
  rw [mergeLayers, joinAssetLists_of_get?_eq_none h,
    foldDefault_of_get?_eq_none (get?_modify_common_default h _), insert_settings,
    substitute_noConstants]
  exact t.ensure_modify rfl

theorem get?_ensure_common_default : (t.ensure commonLayer).get? defaultLayer = none := by
  rw [ensure]
  split
  · exact h
  · rw [get?_insert_of_ne t [] commonLayer_ne_defaultLayer.symm, h]

theorem mergeLayers_ensure :
    (t.ensure commonLayer).mergeLayers noConstants = t.mergeLayers noConstants := by
  rw [mergeLayers_eq_modify_ensure h,
    mergeLayers_eq_modify_ensure (get?_ensure_common_default h), ensure_ensure]

end DefaultAbsent

@[simp] theorem layerSetting?_ensure (t : ViewTree) (view layer setting : String) :
    (t.ensure view).layerSetting? layer setting = t.layerSetting? layer setting := by
  rw [← insert_settings, layerSetting?]
  by_cases hv : layer = view
  · rw [hv, get?_insert_self, Option.bind_some, setting?_settings]
  · rw [get?_insert_of_ne t _ hv, layerSetting?]

/-- Without `default`, merging makes lists of the asset settings of `all`, adds an empty `all`
at the end if there is none, and does nothing else. So it does nothing but add `all` exactly
when the asset settings of `all` are lists already. -/
theorem mergeLayers_of_default_absent {t : ViewTree} (h : t.get? defaultLayer = none) :
    t.mergeLayers noConstants =
        (t.ensure commonLayer).modify commonLayer Record.listAssets ∧
      (t.mergeLayers noConstants = t.ensure commonLayer ↔
        ∀ setting ∈ assetSettings, ∀ v,
          t.layerSetting? commonLayer setting = some v → v = v.asList) := by
  refine ⟨mergeLayers_eq_modify_ensure h, ?_⟩
  rw [← mergeLayers_ensure h, mergeLayers_eq_self_iff]
  constructor
  · intro hm setting hs v hv
    exact hm.assets_listed setting hs v ((layerSetting?_ensure ..).trans hv)
  · intro hlists
    refine ⟨get?_ensure_common_default h, ?_, ?_⟩
    · rw [← insert_settings, get?_insert_self, Option.isSome_some]
    · intro setting hs v hv
      exact hlists setting hs v ((layerSetting?_ensure ..).symm.trans hv)

def taggedScripts : ViewTree :=
  ⟨[("edit", [(.string "stylesheets", .record [(.string "form", .null)])]),
    ("all", [(.string "javascripts", .tagged "t" (.list [.string "app"])),
      (.string "layout", .string "base"), (.string "stylesheets", .list [.string "main"])]),
    ("show", [(.string "javascripts", .null)])]⟩

theorem mergeLayers_taggedScripts :
    taggedScripts.get? defaultLayer = none ∧
      taggedScripts.mergeLayers noConstants =
        ⟨[("edit", [(.string "stylesheets", .record [(.string "form", .null)])]),
          ("all", [(.string "javascripts", .list []), (.string "layout", .string "base"),
            (.string "stylesheets", .list [.string "main"])]),
          ("show", [(.string "javascripts", .null)])]⟩ := by
  have h : taggedScripts.get? defaultLayer = none := by decide
  refine ⟨h, (mergeLayers_of_default_absent h).1.trans ?_⟩
  decide +kernel

def scalarStylesheet : ViewTree := ⟨[("all", [(.string "stylesheets", .string "main")])]⟩

theorem mergeLayers_scalarStylesheet :
    scalarStylesheet.get? defaultLayer = none ∧
      scalarStylesheet.mergeLayers noConstants = ⟨[("all", [(.string "stylesheets", .list [])])]⟩ ∧
      scalarStylesheet.mergeLayers noConstants ≠ scalarStylesheet := by
  rw [mergeLayers, substitute_noConstants]
  decide +kernel

end ViewTree

end ViewLayers
