import ViewLayers.Proofs.Additive.Combined
import ViewLayers.Proofs.Assets.Queue
import ViewLayers.Proofs.Layers.Assets
import ViewLayers.Proofs.Layers.Merged

/-!
# Assets as a record and as a list

A view may give its assets as a record of names and options, which is read like the list of
the record's entries. Put on a list of `all` the record turns the items of that list into
entries too, named by their places, so the two forms mean the same exactly where `all` lists
nothing.
-/

namespace ViewLayers

theorem AssetKind.setting_inj {a b : AssetKind} : a.setting = b.setting ↔ a = b := by
  cases a <;> cases b <;> decide

theorem Value.ne_numbered (n : Int) (v : Value) : v ≠ .record [(.int n, v)] := by
  intro h
  have hsize := congrArg sizeOf h
  simp at hsize
  omega

namespace ViewTree

section Settings

variable {s t : ViewTree} {setting : String}

theorem commonPart_congr
    (h : s.layerSetting? commonLayer setting = t.layerSetting? commonLayer setting) :
    s.commonPart setting = t.commonPart setting := by
  simp only [commonPart, ownSetting?, h]

theorem combined_congr
    (h : ∀ layer, s.layerSetting? layer setting = t.layerSetting? layer setting) (view : String) :
    s.combined setting view = t.combined setting view := by
  simp only [combined, ownSetting?, h, commonPart_congr (h commonLayer)]

end Settings

theorem IsMerged.commonPart_eq {t : ViewTree} (ht : t.IsMerged) {setting : String}
    (hs : setting ∈ assetSettings) :
    t.commonPart setting = .list (t.listed commonLayer setting) := by
  cases h : t.layerSetting? commonLayer setting with
  | none => simp [commonPart, ownSetting?, listed, h]
  | some v =>
    have hv : v = .list v.items := ht.assets_listed setting hs v h
    have hcollection : v.isCollection = true := by rw [hv]; rfl
    rw [t.commonPart_of_isCollection setting h hcollection, listed, h, Option.map_some,
      Option.getD_some]
    exact hv

section Forms

variable {t : ViewTree} (ht : t.IsMerged) {view : String} (hv : view ≠ "")
  (hr : isReserved view = false) (kind : AssetKind)
include ht hv hr

theorem assetItems_combined_record {record : Record}
    (hown : t.layerSetting? view kind.setting = some (.record record)) :
    (t.combined kind.setting view).assetItems =
      (Record.putAll (indexedFrom 0 (t.listed commonLayer kind.setting)) record).map
        fun e => .record [e] := by
  rw [combined_eq_append hv (isReserved_eq_false.1 hr).2 hown rfl,
    ht.commonPart_eq kind.setting_mem, Value.append, Record.nil_appendItems, Value.assetItems]

theorem assetItems_combined_setSetting (items : List Value) :
    ((t.setSetting view kind.setting (.list items)).combined kind.setting view).assetItems =
      t.listed commonLayer kind.setting ++ items := by
  have hc : view ≠ commonLayer := (isReserved_eq_false.1 hr).2
  have hown : (t.setSetting view kind.setting (.list items)).layerSetting? view kind.setting =
      some (.list items) := by
    simp [layerSetting?_setSetting]
  have hcommon : (t.setSetting view kind.setting (.list items)).layerSetting? commonLayer
      kind.setting = t.layerSetting? commonLayer kind.setting := by
    simp [layerSetting?_setSetting, hc.symm]
  rw [combined_eq_append hv hc hown rfl, commonPart_congr hcommon,
    ht.commonPart_eq kind.setting_mem, Value.append, Value.assetItems]

theorem assetItems_combined_record_eq_iff {record : Record} (hd : Entries.Distinct record)
    (hown : t.layerSetting? view kind.setting = some (.record record)) :
    (t.combined kind.setting view).assetItems =
        ((t.setSetting view kind.setting (.list (Value.record record).assetItems)).combined
          kind.setting view).assetItems ↔
      t.listed commonLayer kind.setting = [] := by
  rw [assetItems_combined_record ht hv hr kind hown, assetItems_combined_setSetting ht hv hr kind]
  generalize t.listed commonLayer kind.setting = items
  constructor
  · intro h
    -- The record replaces no item, since both sides have as many.
    have hlength : (Record.putAll (indexedFrom 0 items) record).length =
        (indexedFrom 0 items).length + record.length := by
      simpa [Value.assetItems] using congrArg List.length h
    rw [Record.putAll_eq_append hd ((Record.length_putAll_eq_add_iff _ hd).1 hlength)] at h
    cases items with
    | nil => rfl
    | cons v vs =>
      -- The first item would have to be the entry that has it as its options.
      have hfirst : Value.record [(.int 0, v)] = v := (List.cons.inj h).1
      exact absurd hfirst.symm (Value.ne_numbered 0 v)
  · rintro rfl
    have hnew : Record.news (indexedFrom 0 []) record = record :=
      List.filter_eq_self.2 fun _ _ => rfl
    rw [Record.putAll_eq_append hd hnew]
    rfl

theorem name_of_mem_assetsOf_record {record : Record} (hd : Entries.Distinct record)
    (hown : t.layerSetting? view kind.setting = some (.record record)) {asset : Asset}
    (h : asset ∈ t.assetsOf kind view) :
    (∃ e ∈ record, asset.name = e.1.keyText) ∨
      ∃ i < (t.listed commonLayer kind.setting).length, asset.name = toString (i : Int) := by
  obtain ⟨v, hitem, hname⟩ := exists_item_of_mem_compileAssets h
  rw [assetItems_combined_record ht hv hr kind hown] at hitem
  obtain ⟨e, he, rfl⟩ := List.mem_map.1 hitem
  -- The key gives the name, and it is the place of an item or one of the record's.
  have hkey : e.1 ∈ (indexedFrom 0 (t.listed commonLayer kind.setting)).keys ++
      (Record.news (indexedFrom 0 (t.listed commonLayer kind.setting)) record).keys := by
    rw [← Record.keys_putAll _ hd]
    exact List.mem_map_of_mem he
  rcases List.mem_append.1 hkey with hplace | hrecord
  · obtain ⟨f, hf, hfe⟩ := List.mem_map.1 hplace
    obtain ⟨i, -, hi, hkey⟩ := exists_of_mem_indexedFrom hf
    refine .inr ⟨i, by omega, hname.trans ?_⟩
    rw [AssetItem.ofValue, ← hfe, hkey]
    rfl
  · obtain ⟨f, hf, hfe⟩ := List.mem_map.1 hrecord
    exact .inl ⟨f, (List.mem_filter.1 hf).1, by rw [hname, hfe]; rfl⟩

end Forms

/-- A view's assets as a record mean the list of the record's entries exactly where `all` lists
none; where it does, its items are named by their places. -/
theorem assetStatements_recordForm {t : ViewTree} (ht : t.IsMerged) {view : String}
    (hv : view ≠ "") (hr : isReserved view = false) (kind : AssetKind)
    (keyed : DistinctEntries Value Value)
    (hown : t.layerSetting? view kind.setting = some (.record keyed.entries)) :
    let record : Record := keyed.entries
    let listForm := t.setSetting view kind.setting (.list (Value.record record).assetItems)
    let common := t.listed commonLayer kind.setting
    ((t.combined kind.setting view).assetItems =
        (listForm.combined kind.setting view).assetItems ↔ common = []) ∧
      (common = [] → t.assetStatements view = listForm.assetStatements view) ∧
      ∀ asset ∈ t.assetsOf kind view,
        (∃ e ∈ record, asset.name = e.1.keyText) ∨
          ∃ i < common.length, asset.name = toString (i : Int) := by
  intro record listForm common
  have hd : Entries.Distinct record := keyed.distinct
  have hiff := assetItems_combined_record_eq_iff ht hv hr kind hd hown
  refine ⟨hiff, fun hcommon => ?_, fun asset => name_of_mem_assetsOf_record ht hv hr kind hd hown⟩
  have hassets : ∀ k, t.assetsOf k view = listForm.assetsOf k view := by
    intro k
    by_cases hk : k = kind
    · rw [hk, assetsOf, assetsOf, hiff.2 hcommon]
    · have hother : ∀ layer, t.layerSetting? layer k.setting =
          listForm.layerSetting? layer k.setting := by
        intro layer
        rw [layerSetting?_setSetting, if_neg fun h => hk (AssetKind.setting_inj.1 h.2)]
      rw [assetsOf, assetsOf, combined_congr hother]
  simp only [assetStatements, hassets]

def printStyles : Record :=
  [(.string "main", .record [(.string "position", .string "last")]), (.string "-main", .null),
    (.int 404, .null), (.string "print", .record [(.string "media", .string "print")])]

def printLayers : ViewTree :=
  ⟨[("edit", [(.string "stylesheets", .record printStyles)]),
    ("all", [(.string "javascripts", .list [.string "app"]), (.string "stylesheets", .list [])])]⟩

theorem assetStatements_printLayers :
    printLayers.IsMerged ∧ "edit" ≠ "" ∧ isReserved "edit" = false ∧
      Entries.Distinct printStyles ∧
      printLayers.layerSetting? "edit" (AssetKind.setting .stylesheet) =
        some (.record printStyles) ∧
      printLayers.listed commonLayer (AssetKind.setting .stylesheet) = [] ∧
      printLayers.assetStatements "edit" =
        (printLayers.setSetting "edit" (AssetKind.setting .stylesheet)
          (.list (Value.record printStyles).assetItems)).assetStatements "edit" := by
  have hm : printLayers.IsMerged := by
    rw [← mergeLayers_eq_self_iff, mergeLayers, substitute_noConstants]
    decide +kernel
  have hd : Entries.Distinct printStyles := by decide +kernel
  have hown : printLayers.layerSetting? "edit" (AssetKind.setting .stylesheet) =
      some (.record printStyles) := by decide +kernel
  have hnone : printLayers.listed commonLayer (AssetKind.setting .stylesheet) = [] := by
    decide +kernel
  exact ⟨hm, by decide, by decide, hd, hown, hnone,
    (assetStatements_recordForm hm (by decide) (by decide) .stylesheet ⟨printStyles, hd⟩ hown).2.1
      hnone⟩

def formLayers : ViewTree :=
  ⟨[("all", [(.string "stylesheets", .list [.string "main"])]),
    ("edit", [(.string "stylesheets", .record [(.string "form", .null)])])]⟩

/-- The stylesheet of `all` comes out under the name `0`. -/
theorem assetStatements_formLayers :
    formLayers.mergeLayers noConstants = formLayers ∧
      formLayers.layerSetting? "edit" (AssetKind.setting .stylesheet) =
        some (.record [(.string "form", .null)]) ∧
      formLayers.assetStatements "edit" =
        [.addAsset .stylesheet ⟨"0", "", []⟩, .addAsset .stylesheet ⟨"form", "", []⟩] ∧
      (formLayers.setSetting "edit" (AssetKind.setting .stylesheet)
          (.list (Value.record [(.string "form", .null)]).assetItems)).assetStatements "edit" =
        [.addAsset .stylesheet ⟨"main", "", []⟩, .addAsset .stylesheet ⟨"form", "", []⟩] := by
  rw [mergeLayers, substitute_noConstants]
  decide +kernel

end ViewTree

end ViewLayers
