import ViewLayers.Proofs.Layers.Removal
import ViewLayers.Proofs.Text.Placeholder

/-!
# Constants before or after merging

Constants change texts and nothing else: neither keys nor the shape of a value, and whether a
value is a record, a list or null is all that merging asks. So constants can be put in before
the layers are merged or after, and where no name is known they change nothing.
-/

namespace ViewLayers

section Unknown

mutual

@[simp] theorem Value.substitute_noConstants : ∀ v : Value, v.substitute noConstants = v
  | .string s => congrArg Value.string (Text.substitute_noConstants s)
  | .list items => congrArg Value.list (Value.substituteItems_noConstants items)
  | .record entries => congrArg Value.record (Record.substitute_noConstants entries)
  | .tagged tag v => congrArg (Value.tagged tag) (Value.substitute_noConstants v)
  | .null | .bool _ | .int _ | .float _ => rfl

@[simp] theorem Value.substituteItems_noConstants :
    ∀ items : List Value, Value.substituteItems noConstants items = items
  | [] => rfl
  | v :: vs => by
    rw [Value.substituteItems, Value.substitute_noConstants v,
      Value.substituteItems_noConstants vs]

@[simp] theorem Record.substitute_noConstants :
    ∀ entries : List (Value × Value), Record.substitute noConstants entries = entries
  | [] => rfl
  | (k, v) :: rest => by
    rw [Record.substitute, Value.substitute_noConstants v, Record.substitute_noConstants rest]

end

@[simp] theorem ViewTree.substitute_noConstants (t : ViewTree) :
    t.substitute noConstants = t := by
  obtain ⟨views⟩ := t
  simp [substitute, map]

end Unknown

variable (lookup : String → Option String)

namespace Record

@[simp] theorem get?_substitute (r : Record) (k : Value) :
    Entries.get? (substitute lookup r) k =
      (Entries.get? r k).map (Value.substitute lookup) := by
  rw [substitute_eq_map, Entries.get?_map_value]

@[simp] theorem has_substitute (r : Record) (k : Value) :
    Entries.has (substitute lookup r) k = Entries.has r k := by
  rw [Entries.has_eq_isSome_get?, get?_substitute, Option.isSome_map,
    Entries.has_eq_isSome_get?]

@[simp] theorem substitute_append (r more : Record) :
    substitute lookup (r ++ more) = substitute lookup r ++ substitute lookup more := by
  simp only [substitute_eq_map, List.map_append]

theorem substitute_put (r : Record) (k v : Value) :
    substitute lookup (Entries.put r k v) =
      Entries.put (substitute lookup r) k (v.substitute lookup) := by
  simp only [substitute_eq_map, Entries.map_value_put]

theorem substitute_without (r : Record) (k : Value) :
    substitute lookup (Entries.without r k) = Entries.without (substitute lookup r) k := by
  rw [substitute_eq_map, substitute_eq_map]
  exact (Entries.without_map r (fun e => (e.1, e.2.substitute lookup)) (fun _ => rfl) k).symm

theorem substitute_news (base entries : Record) :
    substitute lookup (news base entries) =
      news (substitute lookup base) (substitute lookup entries) := by
  simp only [news, has_substitute]
  simp only [substitute_eq_map, List.filter_map, Function.comp_def]

end Record

mutual

theorem Value.substitute_overlaid : ∀ v w : Value,
    (v.overlaid w).substitute lookup = (v.substitute lookup).overlaid (w.substitute lookup)
  | .record base, .record entries => by
    simp only [Value.overlaid, Value.substitute, Record.substitute_append,
      Record.substitute_overlaidEntries base entries, Record.substitute_news]
  -- The overlay wins, and stays no record when its texts change.
  | .record _, .null | .record _, .bool _ | .record _, .int _ | .record _, .float _
  | .record _, .string _ | .record _, .list _ | .record _, .tagged _ _ => by
    simp only [Value.overlaid, Value.substitute]
  | .null, _ | .bool _, _ | .int _, _ | .float _, _ | .string _, _ | .list _, _
  | .tagged _ _, _ => by
    simp only [Value.overlaid, Value.substitute]

theorem Record.substitute_overlaidEntries : ∀ base entries : List (Value × Value),
    Record.substitute lookup (Record.overlaidEntries base entries) =
      Record.overlaidEntries (Record.substitute lookup base) (Record.substitute lookup entries)
  | [], _ => rfl
  | (k, v) :: rest, entries => by
    simp only [Record.overlaidEntries, Record.substitute, Record.get?_substitute,
      Record.substitute_overlaidEntries rest entries]
    cases Entries.get? entries k with
    | none => rfl
    | some w => simp only [Option.map_some, Value.substitute_overlaid v w]

end

theorem Record.substitute_overlay (base entries : Record) :
    substitute lookup (overlay base entries) =
      overlay (substitute lookup base) (substitute lookup entries) := by
  rw [overlay, substitute_append, substitute_overlaidEntries, substitute_news, overlay]

namespace ViewTree

variable (t : ViewTree)

@[simp] theorem settings_substitute (layer : String) :
    (t.substitute lookup).settings layer = Record.substitute lookup (t.settings layer) := by
  rw [settings, substitute, get?_map, settings]
  cases t.get? layer <;> rfl

theorem substitute_remove (view : String) :
    (t.remove view).substitute lookup = (t.substitute lookup).remove view :=
  (remove_map t (Record.substitute lookup) view).symm

theorem substitute_insert (view : String) (config : Record) :
    (t.insert view config).substitute lookup =
      (t.substitute lookup).insert view (Record.substitute lookup config) :=
  congrArg ViewTree.mk (Entries.map_value_put t.views (Record.substitute lookup) view config)

theorem substitute_dropSetting (view setting : String) :
    (t.dropSetting view setting).substitute lookup =
      (t.substitute lookup).dropSetting view setting := by
  simp only [dropSetting, substitute, map, List.map_map]
  refine congrArg ViewTree.mk (List.map_congr_left fun e _ => ?_)
  by_cases h : e.1 = view
  · simp only [Function.comp_apply, h, ↓reduceIte, Record.substitute_without]
  · simp only [Function.comp_apply, h, ↓reduceIte]

theorem substitute_setSetting (view setting : String) (value : Value) :
    (t.setSetting view setting value).substitute lookup =
      (t.substitute lookup).setSetting view setting (value.substitute lookup) := by
  rw [setSetting, substitute_insert, Record.substitute_put, ← settings_substitute, setSetting]

theorem listed_substitute (layer setting : String) :
    (t.substitute lookup).listed layer setting =
      (t.listed layer setting).map (Value.substitute lookup) := by
  rw [listed, layerSetting?_substitute, listed]
  cases t.layerSetting? layer setting with
  | none => rfl
  | some v => exact Value.items_substitute lookup v

theorem joinedList?_substitute (setting : String) :
    (t.substitute lookup).joinedList? setting =
      (t.joinedList? setting).map (Value.substitute lookup) := by
  simp only [joinedList?, layerSetting?_substitute, listed_substitute, ← List.map_append]
  cases t.layerSetting? defaultLayer setting <;>
    cases t.layerSetting? commonLayer setting <;>
    simp only [Option.map_none, Option.map_some, Value.substitute, Value.substituteItems_eq_map]

theorem substitute_joinAssetList (setting : String) :
    (t.joinAssetList setting).substitute lookup =
      (t.substitute lookup).joinAssetList setting := by
  rw [joinAssetList_eq, joinAssetList_eq, joinedList?_substitute]
  cases t.joinedList? setting with
  | none => rfl
  | some value =>
    simp only [Option.map_some, substitute_setSetting, substitute_dropSetting]

theorem substitute_joinAssetLists :
    t.joinAssetLists.substitute lookup = (t.substitute lookup).joinAssetLists := by
  rw [joinAssetLists_eq, substitute_joinAssetList, substitute_joinAssetList, joinAssetLists_eq]

theorem substitute_foldDefault :
    t.foldDefault.substitute lookup = (t.substitute lookup).foldDefault := by
  rw [foldDefault, substitute_insert, substitute_remove, Record.substitute_overlay, foldDefault,
    settings_substitute, settings_substitute]

/-- Constants can be put in before the layers are merged, just as they can before two records
are laid over each other. -/
theorem mergeLayers_eq_mergeLayers_substitute :
    t.mergeLayers lookup = (t.substitute lookup).mergeLayers noConstants ∧
      ∀ base entries : Record,
        Record.substitute lookup (Record.overlay base entries) =
          Record.overlay (Record.substitute lookup base) (Record.substitute lookup entries) := by
  refine ⟨?_, Record.substitute_overlay lookup⟩
  rw [mergeLayers, substitute_foldDefault, substitute_joinAssetLists, mergeLayers,
    substitute_noConstants]

end ViewTree

end ViewLayers
