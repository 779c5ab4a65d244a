import ViewLayers.Proofs.Assets.Queue

/-!
# Compiled lists as lists

The assets that a list leaves can be written as items again. As the first part of a longer list
these stand for the items they came from: of an asset that was taken out, replaced or cleared
nothing is left that a later item could meet.
-/

namespace ViewLayers

def Asset.writtenOptions (asset : Asset) : Record :=
  if asset.position = "" then asset.options
  else Entries.put asset.options (.string positionOption) (.string asset.position)

def Asset.toItem (asset : Asset) : Value :=
  .record [(.string asset.name, .record asset.writtenOptions)]

namespace Asset.Queueable

variable {asset : Asset} (h : asset.Queueable)
include h

@[simp] theorem position_writtenOptions :
    ((asset.writtenOptions.setting? positionOption).map Value.scalarText).getD "" =
      asset.position := by
  rw [writtenOptions]
  by_cases hposition : asset.position = ""
  · rw [if_pos hposition, h.position_absent, hposition]
    rfl
  · rw [if_neg hposition, Record.setting?, Entries.get?_put_self]
    rfl

@[simp] theorem without_writtenOptions :
    Entries.without asset.writtenOptions (.string positionOption) = asset.options := by
  have hnone : Entries.get? asset.options (.string positionOption) = none := h.position_absent
  have hkept := Entries.without_of_get?_eq_none hnone
  rw [writtenOptions]
  by_cases hposition : asset.position = ""
  · rw [if_pos hposition, hkept]
  · rw [if_neg hposition, Entries.put_of_get?_eq_none _ hnone, Entries.without, List.filter_append]
    exact (congrArg (· ++ _) hkept).trans (List.append_nil _)

theorem toAsset_toItem : (AssetItem.ofValue asset.toItem).toAsset = asset := by
  have hitem : AssetItem.ofValue asset.toItem = ⟨asset.name, asset.writtenOptions⟩ := rfl
  rw [hitem, AssetItem.toAsset, h.position_writtenOptions, h.without_writtenOptions]

end Asset.Queueable

theorem AssetDirective.ofValue_toItem {asset : Asset} (h : asset.Queueable) :
    ofValue asset.toItem = .queue asset := by
  have hname : IsAssetName (AssetItem.ofValue asset.toItem).name := ⟨h.name_ne, h.head_ne⟩
  rw [ofValue, ofItem_of_isAssetName hname, h.toAsset_toItem]

namespace AssetQueue

theorem foldl_apply_toItem {q : AssetQueue} {assets : List Asset} (h : AssetList assets)
    (hnew : ∀ asset ∈ assets, Entries.get? q asset.name = none) :
    (assets.map Asset.toItem).foldl (fun q v => q.apply (.ofValue v)) q =
      q ++ assets.map fun asset => (asset.name, asset) := by
  induction assets generalizing q with
  | nil => exact (List.append_nil q).symm
  | cons asset rest ih =>
    have hrest : AssetList rest :=
      ⟨h.names_nodup.of_cons, fun a ha => h.queueable a (List.mem_cons_of_mem asset ha)⟩
    obtain ⟨hfirst, hdistinct⟩ := List.nodup_cons.1 h.names_nodup
    have hput : q.apply (.ofValue asset.toItem) = q ++ [(asset.name, asset)] := by
      rw [AssetDirective.ofValue_toItem (h.queueable asset List.mem_cons_self)]
      exact Entries.put_of_get?_eq_none asset (hnew asset List.mem_cons_self)
    have hstill : ∀ a ∈ rest, Entries.get? (q ++ [(asset.name, asset)]) a.name = none := by
      intro a ha
      have hne : (asset.name == a.name) = false :=
        beq_eq_false_iff_ne.2 fun heq => hfirst (heq ▸ List.mem_map_of_mem ha)
      rw [Entries.get?_append, hnew a (List.mem_cons_of_mem asset ha), Option.none_or]
      simp only [Entries.get?, hne, Bool.false_eq_true, ↓reduceIte]
    rw [List.map_cons, List.foldl_cons, hput, ih hrest hstill, List.map_cons, List.append_assoc,
      List.singleton_append]

theorem run_map_toItem (items : List Value) :
    run ((compileAssets items).map Asset.toItem) = run items := by
  have hqueue : (compileAssets items).map (fun asset => (asset.name, asset)) = run items := by
    rw [compileAssets, List.map_map]
    refine (List.map_congr_left fun e he => ?_).trans (List.map_id (run items))
    exact Prod.ext ((named_run items).stored e he).1.symm rfl
  rw [run, foldl_apply_toItem (assetList_compileAssets items) fun _ _ => rfl, hqueue]
  exact List.nil_append _

theorem run_append_congr {items others : List Value} (h : run items = run others)
    (more : List Value) : run (items ++ more) = run (others ++ more) := by
  rw [run_append, run_append, h]

theorem run_concat_clear (items : List Value) : run (items ++ [.string "-*"]) = [] := by
  rw [run_append]
  rfl

end AssetQueue

/-- The compiled list says all that the items after it have to know. -/
theorem compileAssets_append (items more : List Value) :
    compileAssets (items ++ more) =
        compileAssets ((compileAssets items).map Asset.toItem ++ more) ∧
      compileAssets ((compileAssets items).map Asset.toItem) = compileAssets items ∧
      compileAssets (items ++ [.string "-*"] ++ more) = compileAssets more := by
  have hrun := AssetQueue.run_map_toItem items
  refine ⟨?_, ?_, ?_⟩
  · exact congrArg (List.map Prod.snd) (AssetQueue.run_append_congr hrun.symm more)
  · exact congrArg (List.map Prod.snd) hrun
  · rw [compileAssets, AssetQueue.run_append, AssetQueue.run_concat_clear]
    rfl

end ViewLayers
