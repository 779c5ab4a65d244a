import Mathlib.Data.List.Induction
import ViewLayers.Proofs.Assets.Queue

/-!
# What is left of an asset list

Which assets a list leaves can be told without a queue, from the places of its items. An item
keeps its asset unless a later one takes the name out. The first item that keeps an asset gives
the asset its place, and the last one gives it its options.
-/

namespace ViewLayers

def AssetItem.takesOut (item : AssetItem) (name : String) : Bool :=
  item.name = "-*" || item.name = "-" ++ name

def placedItems (items : List Value) : List (AssetItem × Nat) :=
  (items.map AssetItem.ofValue).zipIdx

/-- The place of the last item that takes the name out, `-1` where none does. -/
def lastRemoval (items : List Value) (name : String) : Int :=
  (((placedItems items).filter fun e => e.1.takesOut name).getLast?.map fun e =>
    (e.2 : Int)).getD (-1)

/-- The items with the name behind its last removal, in the order of their places. -/
def keepers (items : List Value) (name : String) : List (AssetItem × Nat) :=
  (placedItems items).filter fun e => e.1.name = name && lastRemoval items name < e.2

/-- The first item that keeps the one name stands before the first that keeps the other. -/
def KeptBefore (items : List Value) (a b : String) : Prop :=
  ∃ e ∈ (keepers items a).head?, ∃ f ∈ (keepers items b).head?, e.2 < f.2

structure Surviving (items : List Value) (assets : List Asset) : Prop where
  mem_names_iff : ∀ name, name ∈ assets.map Asset.name ↔
    name ≠ "" ∧ name.toList.head? ≠ some '-' ∧ keepers items name ≠ []
  names_nodup : (assets.map Asset.name).Nodup
  ordered : assets.Pairwise fun a b => KeptBefore items a.name b.name
  latest : ∀ asset ∈ assets, ∃ e ∈ (keepers items asset.name).getLast?,
    asset.position =
        ((e.1.options.find? fun o => o.1 = .string "position").map fun o => o.2.scalarText).getD ""
      ∧ asset.options = e.1.options.filter fun o => o.1 ≠ .string "position"

section Concat

variable (items : List Value) (v : Value) (name : String)

@[simp] theorem placedItems_concat :
    placedItems (items ++ [v]) = placedItems items ++ [(AssetItem.ofValue v, items.length)] := by
  rw [placedItems, List.map_append, List.zipIdx_append, List.length_map, Nat.zero_add]
  rfl

theorem lt_length_of_mem_placedItems {e : AssetItem × Nat} (h : e ∈ placedItems items) :
    e.2 < items.length := by
  simpa using List.snd_lt_of_mem_zipIdx h

theorem lastRemoval_lt : lastRemoval items name < items.length := by
  rw [lastRemoval]
  cases h : ((placedItems items).filter fun e => e.1.takesOut name).getLast? with
  | none =>
    rw [Option.map_none, Option.getD_none]
    omega
  | some e =>
    have hplace := lt_length_of_mem_placedItems items
      (List.mem_filter.1 (List.mem_of_getLast? h)).1
    rw [Option.map_some, Option.getD_some]
    omega

@[simp] theorem lastRemoval_concat :
    lastRemoval (items ++ [v]) name =
      if (AssetItem.ofValue v).takesOut name then (items.length : Int)
      else lastRemoval items name := by
  rw [lastRemoval, placedItems_concat, List.filter_append]
  cases h : (AssetItem.ofValue v).takesOut name with
  | true => simp [h]
  | false => simp [h, lastRemoval]

@[simp] theorem keepers_concat :
    keepers (items ++ [v]) name =
      if (AssetItem.ofValue v).takesOut name then []
      else keepers items name ++
        if (AssetItem.ofValue v).name = name then [(AssetItem.ofValue v, items.length)]
        else [] := by
  rw [keepers, placedItems_concat, lastRemoval_concat]
  cases h : (AssetItem.ofValue v).takesOut name with
  | true =>
    -- No place lies behind the last one.
    refine List.filter_eq_nil_iff.2 fun e he => ?_
    have hle : e.2 ≤ items.length := by
      rcases List.mem_append.1 he with hbefore | hlast
      · exact Nat.le_of_lt (lt_length_of_mem_placedItems items hbefore)
      · exact Nat.le_of_eq (congrArg Prod.snd (List.mem_singleton.1 hlast))
    simp [hle]
  | false =>
    have hlast := lastRemoval_lt items name
    simp [List.filter_append, keepers, List.filter_cons, hlast]

end Concat

section Step

variable {item : AssetItem} {name : String}

theorem AssetItem.takesOut_dash_append {rest : String} (hname : item.name = "-" ++ rest)
    (hrest : rest ≠ "*") : item.takesOut name = decide (rest = name) := by
  have hstar : "-" ++ rest ≠ "-*" := fun h => hrest ((String.append_right_inj "-").1 h)
  simp only [takesOut, hname, decide_eq_false hstar, Bool.false_or, String.append_right_inj]

theorem IsAssetName.takesOut_eq_false (h : IsAssetName item.name) (name : String) :
    item.takesOut name = false := by
  have hstar : item.name ≠ "-*" := h.ne_dash_append "*"
  simp [AssetItem.takesOut, hstar, h.ne_dash_append name]

theorem AssetItem.takesOut_of_empty (h : item.name = "") : item.takesOut name = false := by
  have hdash : "" ≠ "-" ++ name := fun heq => by simpa using congrArg String.toList heq
  simp [takesOut, h, hdash]

theorem AssetQueue.get?_apply (q : AssetQueue) (v : Value) (h : IsAssetName name) :
    Entries.get? (q.apply (.ofValue v)) name =
      if (AssetItem.ofValue v).takesOut name then none
      else if (AssetItem.ofValue v).name = name then some (AssetItem.ofValue v).toAsset
      else Entries.get? q name := by
  rw [AssetDirective.ofValue]
  generalize AssetItem.ofValue v = item
  obtain ⟨hitem, hd⟩ | ⟨hitem, hd⟩ | ⟨rest, hitem, hstar, hd⟩ | ⟨hitem, hd⟩ :=
    AssetDirective.ofItem_cases item
  · rw [hd, AssetItem.takesOut_of_empty hitem, hitem, if_neg Bool.false_ne_true, if_neg h.1.symm]
    rfl
  · rw [hd, AssetItem.takesOut, hitem]
    rfl
  · have hne : item.name ≠ name := fun heq => h.ne_dash_append rest (heq ▸ hitem)
    rw [hd, AssetItem.takesOut_dash_append hitem hstar, if_neg hne, apply]
    by_cases hrest : rest = name
    · rw [hrest, decide_eq_true rfl, if_pos rfl, Entries.get?_without_self]
    · rw [decide_eq_false hrest, if_neg Bool.false_ne_true,
        Entries.get?_without_of_ne q (beq_eq_false_iff_ne.2 hrest)]
  · rw [hd, hitem.takesOut_eq_false, if_neg Bool.false_ne_true, apply, Entries.get?_put]
    simp [AssetItem.toAsset]

theorem AssetQueue.keys_apply (q : AssetQueue) (v : Value) :
    Entries.keys (q.apply (.ofValue v)) =
      ((Entries.keys q).filter fun name => !(AssetItem.ofValue v).takesOut name) ++
        if IsAssetName (AssetItem.ofValue v).name ∧
          Entries.has q (AssetItem.ofValue v).name = false
        then [(AssetItem.ofValue v).name] else [] := by
  rw [AssetDirective.ofValue]
  generalize AssetItem.ofValue v = item
  have hkept : (∀ name, item.takesOut name = false) →
      ((Entries.keys q).filter fun name => !item.takesOut name) = Entries.keys q := by
    intro h
    exact List.filter_eq_self.2 fun name _ => by rw [h, Bool.not_false]
  obtain ⟨hitem, hd⟩ | ⟨hitem, hd⟩ | ⟨rest, hitem, hstar, hd⟩ | ⟨hitem, hd⟩ :=
    AssetDirective.ofItem_cases item
  · have hname : ¬ IsAssetName item.name := by rw [hitem]; decide
    rw [hd, hkept fun name => AssetItem.takesOut_of_empty hitem, if_neg fun h => hname h.1,
      List.append_nil]
    rfl
  · have hname : ¬ IsAssetName item.name := by rw [hitem]; decide
    have hall : ∀ name, item.takesOut name = true := fun name => by simp [AssetItem.takesOut, hitem]
    rw [hd, if_neg fun h => hname h.1, List.append_nil]
    exact (List.filter_eq_nil_iff.2 fun name _ => by simp [hall name]).symm
  · have hname : ¬ IsAssetName item.name := fun h => h.ne_dash_append rest hitem
    rw [hd, if_neg fun h => hname h.1, List.append_nil, apply, Entries.keys_without]
    refine List.filter_congr fun name _ => ?_
    rw [AssetItem.takesOut_dash_append hitem hstar, BEq.comm]
    rfl
  · rw [hd, hkept hitem.takesOut_eq_false, apply, Entries.keys_put, AssetItem.toAsset]
    cases Entries.has q item.name <;> simp [hitem]

end Step

section Run

variable {items : List Value} {v : Value} {name a b : String}

@[simp] theorem AssetQueue.run_concat (items : List Value) (v : Value) :
    run (items ++ [v]) = (run items).apply (.ofValue v) :=
  run_append items [v]

theorem AssetQueue.isAssetName_of_mem_keys_run (h : name ∈ Entries.keys (run items)) :
    IsAssetName name := by
  obtain ⟨e, he, rfl⟩ := List.mem_map.1 h
  obtain ⟨hname, hasset⟩ := (named_run items).stored e he
  rw [hname]
  exact ⟨hasset.name_ne, hasset.head_ne⟩

theorem AssetQueue.get?_run (items : List Value) (h : IsAssetName name) :
    Entries.get? (run items) name = (keepers items name).getLast?.map fun e => e.1.toAsset := by
  induction items using List.reverseRecOn with
  | nil => rfl
  | append_singleton items v ih =>
    rw [run_concat, get?_apply _ v h, ih, keepers_concat]
    cases (AssetItem.ofValue v).takesOut name with
    | true => rfl
    | false =>
      by_cases hname : (AssetItem.ofValue v).name = name
      · simp [hname]
      · simp [hname]

theorem AssetQueue.has_run_iff (h : IsAssetName name) :
    Entries.has (run items) name = true ↔ keepers items name ≠ [] := by
  rw [Entries.has_eq_isSome_get?, get?_run items h, Option.isSome_map, List.getLast?_isSome]

theorem head?_keepers_concat {e : AssetItem × Nat} (he : e ∈ (keepers items name).head?)
    (hout : (AssetItem.ofValue v).takesOut name = false) :
    e ∈ (keepers (items ++ [v]) name).head? := by
  rw [keepers_concat, hout, if_neg Bool.false_ne_true, List.head?_append, Option.mem_def.1 he]
  rfl

theorem KeptBefore.concat (h : KeptBefore items a b)
    (ha : (AssetItem.ofValue v).takesOut a = false)
    (hb : (AssetItem.ofValue v).takesOut b = false) : KeptBefore (items ++ [v]) a b := by
  obtain ⟨e, he, f, hf, hlt⟩ := h
  exact ⟨e, head?_keepers_concat he ha, f, head?_keepers_concat hf hb, hlt⟩

theorem keptBefore_concat_of_new (ha : keepers items a ≠ [])
    (hout : (AssetItem.ofValue v).takesOut a = false)
    (hname : IsAssetName (AssetItem.ofValue v).name)
    (hnew : keepers items (AssetItem.ofValue v).name = []) :
    KeptBefore (items ++ [v]) a (AssetItem.ofValue v).name := by
  obtain ⟨e, he⟩ := Option.isSome_iff_exists.1 (List.isSome_head?.2 ha)
  have hlt : e.2 < items.length :=
    lt_length_of_mem_placedItems items (List.mem_filter.1 (List.mem_of_head? he)).1
  refine ⟨e, head?_keepers_concat he hout, (AssetItem.ofValue v, items.length), ?_, hlt⟩
  rw [keepers_concat, hname.takesOut_eq_false, hnew]
  simp

theorem AssetQueue.pairwise_keys_run (items : List Value) :
    (Entries.keys (run items)).Pairwise (KeptBefore items) := by
  induction items using List.reverseRecOn with
  | nil => exact List.Pairwise.nil
  | append_singleton items v ih =>
    have hstays : ∀ {name : String}, name ∈ (Entries.keys (run items)).filter
        (fun name => !(AssetItem.ofValue v).takesOut name) →
        name ∈ Entries.keys (run items) ∧ (AssetItem.ofValue v).takesOut name = false :=
      fun h => by simpa using List.mem_filter.1 h
    rw [run_concat, keys_apply, List.pairwise_append]
    refine ⟨?_, ?_, ?_⟩
    · exact (ih.filter _).imp_of_mem fun ha hb h => h.concat (hstays ha).2 (hstays hb).2
    · split
      · exact List.pairwise_singleton _ _
      · exact List.Pairwise.nil
    · intro a ha b hb
      obtain ⟨hold, hout⟩ := hstays ha
      split at hb
      · rename_i hitem
        obtain ⟨hname, hnew⟩ := hitem
        have hkept : keepers items a ≠ [] :=
          (has_run_iff (isAssetName_of_mem_keys_run hold)).1 (Entries.mem_keys_iff.1 hold)
        rw [Bool.eq_false_iff, ne_eq, has_run_iff hname, not_not] at hnew
        rw [List.mem_singleton.1 hb]
        exact keptBefore_concat_of_new hkept hout hname hnew
      · cases hb

end Run

theorem Record.setting?_eq_find? (r : Record) (name : String) :
    r.setting? name = (r.find? fun e => e.1 = .string name).map Prod.snd := by
  induction r with
  | nil => rfl
  | cons e rest ih =>
    rw [setting?] at ih
    by_cases h : e.1 = .string name
    · simp [setting?, h]
    · have hne : (e.1 == .string name) = false :=
        Bool.eq_false_iff.2 fun hkey => h (Value.beq_string_iff.1 hkey)
      simp [setting?, hne, h, ih]

theorem AssetItem.position_toAsset (item : AssetItem) :
    item.toAsset.position =
      ((item.options.find? fun o => o.1 = .string "position").map fun o =>
        o.2.scalarText).getD "" := by
  rw [toAsset, Record.setting?_eq_find?, Option.map_map]
  rfl

theorem AssetItem.options_toAsset (item : AssetItem) :
    item.toAsset.options = item.options.filter fun o => o.1 ≠ .string "position" := by
  refine List.filter_congr fun o _ => ?_
  rw [Bool.eq_iff_iff, Bool.not_eq_true', Bool.eq_false_iff, ne_eq, Value.beq_string_iff,
    decide_eq_true_iff]
  rfl

theorem surviving_compileAssets (items : List Value) : Surviving items (compileAssets items) where
  mem_names_iff name := by
    rw [names_compileAssets, Entries.mem_keys_iff]
    constructor
    · intro h
      have hname := AssetQueue.isAssetName_of_mem_keys_run (Entries.mem_keys_iff.2 h)
      exact ⟨hname.1, hname.2, (AssetQueue.has_run_iff hname).1 h⟩
    · rintro ⟨hne, hhead, hkept⟩
      exact (AssetQueue.has_run_iff ⟨hne, hhead⟩).2 hkept
  names_nodup := (assetList_compileAssets items).names_nodup
  ordered := by
    rw [← List.pairwise_map, names_compileAssets]
    exact AssetQueue.pairwise_keys_run items
  latest asset h := by
    obtain ⟨e, he, rfl⟩ := List.mem_map.1 h
    obtain ⟨hkey, hasset⟩ := (AssetQueue.named_run items).stored e he
    have hget := (AssetQueue.named_run items).distinct.get?_eq_some_of_mem he
    rw [hkey, AssetQueue.get?_run items ⟨hasset.name_ne, hasset.head_ne⟩] at hget
    obtain ⟨last, hlast, heq⟩ := Option.map_eq_some_iff.1 hget
    refine ⟨last, hlast, ?_⟩
    rw [← heq]
    exact ⟨last.1.position_toAsset, last.1.options_toAsset⟩

theorem KeptBefore.asymm {items : List Value} {a b : String} (h : KeptBefore items a b) :
    ¬ KeptBefore items b a := by
  obtain ⟨e, he, f, hf, hlt⟩ := h
  rintro ⟨f', hf', e', he', hgt⟩
  cases Option.mem_unique he he'
  cases Option.mem_unique hf hf'
  omega

namespace Surviving

variable {items : List Value} {assets others : List Asset}

theorem names_eq (h : Surviving items assets) (ho : Surviving items others) :
    assets.map Asset.name = others.map Asset.name := by
  have hperm : (assets.map Asset.name).Perm (others.map Asset.name) :=
    (List.perm_ext_iff_of_nodup h.names_nodup ho.names_nodup).2 fun name =>
      (h.mem_names_iff name).trans (ho.mem_names_iff name).symm
  have hordered : ∀ {list : List Asset}, Surviving items list →
      (list.map Asset.name).Pairwise (KeptBefore items) :=
    fun hlist => List.pairwise_map.2 hlist.ordered
  exact hperm.eq_of_pairwise (fun a b _ _ (hab : KeptBefore items a b) hba => absurd hba hab.asymm)
    (hordered h) (hordered ho)

theorem asset_eq (h : Surviving items assets) (ho : Surviving items others) {a b : Asset}
    (ha : a ∈ assets) (hb : b ∈ others) (hname : a.name = b.name) : a = b := by
  obtain ⟨e, he, hposition, hoptions⟩ := h.latest a ha
  obtain ⟨f, hf, hposition', hoptions'⟩ := ho.latest b hb
  rw [hname] at he
  cases Option.mem_unique he hf
  have hplace : a.position = b.position := hposition.trans hposition'.symm
  have hwritten : a.options = b.options := hoptions.trans hoptions'.symm
  cases a
  cases b
  exact (Asset.mk.injEq ..).mpr ⟨hname, hplace, hwritten⟩

end Surviving

/-- The compiled list is the one list of the surviving assets. -/
theorem compileAssets_eq_iff (items : List Value) (assets : List Asset) :
    compileAssets items = assets ↔ Surviving items assets := by
  have hcompiled := surviving_compileAssets items
  constructor
  · rintro rfl
    exact hcompiled
  · intro h
    have hnames := hcompiled.names_eq h
    have hlength : (compileAssets items).length = assets.length := by
      simpa using congrArg List.length hnames
    refine List.ext_getElem hlength fun i hi hi' => ?_
    refine hcompiled.asset_eq h (List.getElem_mem hi) (List.getElem_mem hi') ?_
    simpa [hi, hi'] using congrArg (fun names => names[i]?) hnames

example :
    compileAssets [.string "print", .int 5, .record [(.string "print", .record
        [(.string "media", .string "print"), (.string "position", .string "last")])],
      .int (-5), .string "main", .int 5] =
      [⟨"print", "last", [(.string "media", .string "print")]⟩, ⟨"main", "", []⟩,
        ⟨"5", "", []⟩] := by
  decide +kernel

end ViewLayers
