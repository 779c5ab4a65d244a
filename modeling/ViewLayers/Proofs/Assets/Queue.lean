import ViewLayers.Assets
import ViewLayers.Proofs.Entries

/-!
# Running an asset list

What one item does to the queue of assets, and from it what a whole list leaves there: assets of
the list, each under a name of its own that is no directive.
-/

namespace ViewLayers

theorem Entries.mem_put {κ β : Type} [BEq κ] [ReflBEq κ] {es : Entries κ β} {k : κ} {v : β}
    {e : κ × β} (h : e ∈ put es k v) : e ∈ es ∨ (e.1 == k) = true ∧ e.2 = v := by
  induction es with
  | nil =>
    rw [put, List.mem_singleton] at h
    exact .inr ⟨by rw [h, BEq.rfl], congrArg Prod.snd h⟩
  | cons first rest ih =>
    by_cases hk : (first.1 == k) = true
    · simp only [put, hk, ↓reduceIte, List.mem_cons] at h
      rcases h with rfl | hrest
      · exact .inr ⟨hk, rfl⟩
      · exact .inl (List.mem_cons_of_mem first hrest)
    · simp only [put, hk, Bool.false_eq_true, ↓reduceIte, List.mem_cons] at h
      rcases h with rfl | hrest
      · exact .inl List.mem_cons_self
      · exact (ih hrest).imp_left (List.mem_cons_of_mem first)

def IsAssetName (name : String) : Prop := name ≠ "" ∧ name.toList.head? ≠ some '-'

instance (name : String) : Decidable (IsAssetName name) :=
  inferInstanceAs (Decidable (name ≠ "" ∧ name.toList.head? ≠ some '-'))

theorem IsAssetName.ne_dash_append {name : String} (h : IsAssetName name) (rest : String) :
    name ≠ "-" ++ rest := by
  rintro rfl
  exact h.2 (by rw [String.toList_append]; rfl)

theorem AssetDirective.ofItem_cases (item : AssetItem) :
    (item.name = "" ∧ ofItem item = .skip) ∨ (item.name = "-*" ∧ ofItem item = .clear) ∨
      (∃ name, item.name = "-" ++ name ∧ name ≠ "*" ∧ ofItem item = .remove name) ∨
        IsAssetName item.name ∧ ofItem item = .queue item.toAsset := by
  by_cases hempty : item.name = ""
  · exact .inl ⟨hempty, by rw [ofItem, if_pos hempty]⟩
  by_cases hclear : item.name = "-*"
  · exact .inr (.inl ⟨hclear, by rw [ofItem, if_neg hempty, if_pos hclear]⟩)
  rw [ofItem, if_neg hempty, if_neg hclear]
  split
  · rename_i rest hrest
    have hname : item.name = "-" ++ String.ofList rest := by
      rw [← String.ofList_toList (s := item.name), hrest, ← String.ofList_append]
      rfl
    refine .inr (.inr (.inl ⟨String.ofList rest, hname, fun hstar => hclear ?_, rfl⟩))
    rw [hname, hstar]
    rfl
  · rename_i hhead
    refine .inr (.inr (.inr ⟨⟨hempty, fun hdash => ?_⟩, rfl⟩))
    obtain ⟨rest, hrest⟩ := List.head?_eq_some_iff.1 hdash
    exact hhead rest hrest

theorem AssetDirective.ofItem_of_isAssetName {item : AssetItem} (h : IsAssetName item.name) :
    ofItem item = .queue item.toAsset := by
  obtain ⟨hempty, -⟩ | ⟨hclear, -⟩ | ⟨rest, hremove, -⟩ | ⟨-, hd⟩ := ofItem_cases item
  · exact absurd hempty h.1
  · exact absurd hclear (h.ne_dash_append "*")
  · exact absurd hremove (h.ne_dash_append rest)
  · exact hd

/-- An asset that can be queued: its name is not empty and is no directive, and where it goes is
not among its options. -/
structure Asset.Queueable (asset : Asset) : Prop where
  name_ne : asset.name ≠ ""
  head_ne : asset.name.toList.head? ≠ some '-'
  position_absent : asset.options.setting? positionOption = none

namespace AssetDirective

theorem of_ofValue_eq_queue {v : Value} {asset : Asset} (h : ofValue v = .queue asset) :
    IsAssetName (AssetItem.ofValue v).name ∧ asset = (AssetItem.ofValue v).toAsset := by
  rw [ofValue] at h
  obtain ⟨-, hd⟩ | ⟨-, hd⟩ | ⟨name, -, -, hd⟩ | ⟨hname, hd⟩ := ofItem_cases (.ofValue v) <;>
    rw [hd] at h <;> cases h
  exact ⟨hname, rfl⟩

theorem name_of_ofValue_eq_queue {v : Value} {asset : Asset} (h : ofValue v = .queue asset) :
    asset.name = (AssetItem.ofValue v).name := by
  rw [(of_ofValue_eq_queue h).2, AssetItem.toAsset]

theorem queueable_of_ofValue_eq_queue {v : Value} {asset : Asset} (h : ofValue v = .queue asset) :
    asset.Queueable := by
  obtain ⟨⟨hne, hhead⟩, rfl⟩ := of_ofValue_eq_queue h
  exact ⟨hne, hhead, Entries.get?_without_self _ _⟩

end AssetDirective

namespace AssetQueue

structure Named (q : AssetQueue) : Prop where
  distinct : Entries.Distinct q
  stored : ∀ e ∈ q, e.1 = e.2.name ∧ e.2.Queueable

theorem Named.apply {q : AssetQueue} (h : q.Named) (v : Value) :
    (q.apply (.ofValue v)).Named := by
  cases hd : AssetDirective.ofValue v with
  | skip => exact h
  | clear => exact ⟨List.Pairwise.nil, fun e he => by cases he⟩
  | remove name =>
    refine ⟨h.distinct.filter _, fun e he => ?_⟩
    exact h.stored e (List.mem_filter.1 he).1
  | queue asset =>
    refine ⟨h.distinct.put asset.name asset, fun e he => ?_⟩
    rcases Entries.mem_put he with hq | ⟨hname, hasset⟩
    · exact h.stored e hq
    · rw [hasset]
      exact ⟨eq_of_beq hname, AssetDirective.queueable_of_ofValue_eq_queue hd⟩

theorem named_foldl_apply (items : List Value) {q : AssetQueue} (h : q.Named) :
    (items.foldl (fun q v => q.apply (.ofValue v)) q).Named := by
  induction items generalizing q with
  | nil => exact h
  | cons v vs ih => exact ih (h.apply v)

theorem run_append (items more : List Value) :
    run (items ++ more) = more.foldl (fun q v => q.apply (.ofValue v)) (run items) :=
  List.foldl_append

theorem named_run (items : List Value) : (run items).Named :=
  named_foldl_apply items ⟨List.Pairwise.nil, fun e he => by cases he⟩

theorem mem_apply {q : AssetQueue} {d : AssetDirective} {e : String × Asset}
    (h : e ∈ q.apply d) : e ∈ q ∨ d = .queue e.2 := by
  cases d with
  | skip => exact .inl h
  | clear => cases h
  | remove name => exact .inl (List.mem_filter.1 h).1
  | queue asset => exact (Entries.mem_put h).imp_right fun he => by rw [he.2]

theorem mem_foldl_apply {items : List Value} {q : AssetQueue} {e : String × Asset}
    (h : e ∈ items.foldl (fun q v => q.apply (.ofValue v)) q) :
    e ∈ q ∨ ∃ v ∈ items, e.2.name = (AssetItem.ofValue v).name := by
  induction items generalizing q with
  | nil => exact .inl h
  | cons v vs ih =>
    rcases ih h with hstep | ⟨w, hw, hname⟩
    · rcases mem_apply hstep with hq | hqueue
      · exact .inl hq
      · exact .inr ⟨v, List.mem_cons_self, AssetDirective.name_of_ofValue_eq_queue hqueue⟩
    · exact .inr ⟨w, List.mem_cons_of_mem v hw, hname⟩

end AssetQueue

structure AssetList (assets : List Asset) : Prop where
  names_nodup : (assets.map Asset.name).Nodup
  queueable : ∀ asset ∈ assets, asset.Queueable

theorem names_compileAssets (items : List Value) :
    (compileAssets items).map Asset.name = Entries.keys (AssetQueue.run items) := by
  rw [compileAssets, List.map_map]
  exact List.map_congr_left fun e he => ((AssetQueue.named_run items).stored e he).1.symm

theorem assetList_compileAssets (items : List Value) : AssetList (compileAssets items) where
  names_nodup := by
    rw [names_compileAssets]
    have hdistinct := (AssetQueue.named_run items).distinct
    exact (Entries.distinct_iff_pairwise_keys.1 hdistinct).imp ne_of_beq_false
  queueable := by
    intro asset hasset
    obtain ⟨e, he, rfl⟩ := List.mem_map.1 hasset
    exact ((AssetQueue.named_run items).stored e he).2

theorem exists_item_of_mem_compileAssets {items : List Value} {asset : Asset}
    (h : asset ∈ compileAssets items) :
    ∃ v ∈ items, asset.name = (AssetItem.ofValue v).name := by
  obtain ⟨e, he, rfl⟩ := List.mem_map.1 h
  rcases AssetQueue.mem_foldl_apply he with hempty | hitem
  · cases hempty
  · exact hitem

end ViewLayers
