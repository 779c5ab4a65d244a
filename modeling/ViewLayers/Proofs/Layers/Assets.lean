import Mathlib
import ViewLayers.Facets
import ViewLayers.Proofs.Layers.Settings

/-!
# Asset lists across three layers

The asset items of a view after merging are those of `default`, `all` and the view, one list
behind the other, with constants replaced. The assets of the view are what is left when this
list has been carried out.
-/

namespace ViewLayers

def Statement.addsAsset (kind : AssetKind) : Statement → Bool
  | .addAsset k _ => k = kind
  | _ => false

theorem AssetKind.setting_mem (kind : AssetKind) : kind.setting ∈ assetSettings := by
  cases kind <;> decide

namespace Value

theorem items_of_isNull {v : Value} (h : v.isNull = true) : v.items = [] := by
  cases v with
  | list items => simp [isNull] at h
  | _ => rfl

theorem append_list_of_not_record (items : List Value) {v : Value}
    (h : ∀ entries, v ≠ .record entries) :
    (Value.list items).append v = .list (items ++ v.items) := by
  cases v with
  | list more => rfl
  | record entries => exact absurd rfl (h entries)
  | _ => simp only [append, Value.items, List.append_nil]

theorem substitute_ne_record {lookup : String → Option String} {v : Value}
    (h : ∀ entries, v ≠ .record entries) (entries : Record) :
    v.substitute lookup ≠ .record entries := by
  cases v with
  | record es => exact absurd rfl (h es)
  | _ => simp [substitute]

end Value

namespace ViewTree

/-- The items that the layers list for a view, lowest layer first. The general case has no
layer of its own. -/
def layeredItems (t : ViewTree) (setting view : String) : List Value :=
  t.listed defaultLayer setting ++ t.listed commonLayer setting
    ++ (if view = "" then [] else t.listed view setting)

section Merged

variable (lookup : String → Option String) (t : ViewTree)

theorem commonPart_mergeLayers {setting : String} (hs : setting ∈ assetSettings) :
    (t.mergeLayers lookup).commonPart setting =
      .list ((t.listed defaultLayer setting ++ t.listed commonLayer setting).map
        (Value.substitute lookup)) := by
  have hmerged := layerSetting?_mergeLayers_common_of_asset lookup t hs
  cases hj : t.joinedList? setting with
  | none =>
    obtain ⟨hd, hc⟩ := joinedList?_eq_none.1 hj
    rw [hj, Option.map_none] at hmerged
    simp [commonPart, ownSetting?, hmerged, listed, hd, hc]
  | some value =>
    rw [hj, Option.map_some, eq_list_of_joinedList? hj, Value.substitute,
      Value.substituteItems_eq_map] at hmerged
    simp [commonPart, ownSetting?, hmerged, Value.isNull, Value.isCollection, Option.filter]

theorem combined_mergeLayers {setting view : String} (hs : setting ∈ assetSettings)
    (hv : isReserved view = false)
    (hm : view ≠ "" → ∀ entries, t.layerSetting? view setting ≠ some (.record entries)) :
    (t.mergeLayers lookup).combined setting view =
      .list ((t.layeredItems setting view).map (Value.substitute lookup)) := by
  have hc : view ≠ commonLayer := (isReserved_eq_false.1 hv).2
  by_cases he : view = ""
  · rw [combined, if_pos (.inl he), commonPart_mergeLayers lookup t hs, layeredItems, if_pos he,
      List.append_nil]
  · have hgeneral : ¬ (view = "" ∨ view = commonLayer) := fun h => h.elim he hc
    have hown := layerSetting?_mergeLayers_view lookup t hv setting
    rw [combined, if_neg hgeneral, layeredItems, if_neg he, ownSetting?, hown,
      commonPart_mergeLayers lookup t hs]
    cases hl : t.layerSetting? view setting with
    | none => simp [listed, hl]
    | some v =>
      have hrecord : ∀ entries, v ≠ .record entries := by
        intro entries hve
        exact hm he entries (hl.trans (congrArg some hve))
      have hitems : t.listed view setting = v.items := by simp [listed, hl]
      cases hn : v.isNull with
      | true =>
        -- A null is unset for the view and adds nothing, just as it lists nothing.
        have hnone : v.items = [] := Value.items_of_isNull hn
        simp [Value.isNull_substitute, hn, hitems, hnone, Option.filter]
      | false =>
        simp only [Option.map_some, Option.filter, Value.isNull_substitute, hn, Bool.not_false,
          ↓reduceIte, hitems]
        rw [Value.append_list_of_not_record _ (Value.substitute_ne_record hrecord)]
        simp only [Value.items_substitute, List.map_append]

end Merged

theorem filter_assetStatements (t : ViewTree) (kind : AssetKind) (view : String) :
    (t.assetStatements view).filter (Statement.addsAsset kind) =
      (t.assetsOf kind view).map (.addAsset kind) := by
  have hown : ∀ assets : List Asset,
      (assets.map (Statement.addAsset kind)).filter (Statement.addsAsset kind) =
        assets.map (Statement.addAsset kind) := by
    intro assets
    rw [List.filter_eq_self]
    simp [Statement.addsAsset]
  have hother : ∀ k, k ≠ kind → ∀ assets : List Asset,
      (assets.map (Statement.addAsset k)).filter (Statement.addsAsset kind) = [] := by
    intro k hk assets
    rw [List.filter_eq_nil_iff]
    simp [Statement.addsAsset, hk]
  cases kind with
  | stylesheet =>
    simp only [assetStatements, List.flatMap_cons, List.flatMap_nil, List.append_nil,
      List.filter_append, hown, hother .javascript (by decide)]
  | javascript =>
    simp only [assetStatements, List.flatMap_cons, List.flatMap_nil, List.append_nil,
      List.filter_append, hown, hother .stylesheet (by decide), List.nil_append]

/-- No layer's directive is lost, repeated or moved on the way to the assets of a view. -/
theorem assetStatements_mergeLayers (lookup : String → Option String) (t : ViewTree)
    (kind : AssetKind) {view : String} (hv : isReserved view = false)
    (hm : view ≠ "" → ∀ entries, t.layerSetting? view kind.setting ≠ some (.record entries)) :
    let items := (t.layeredItems kind.setting view).map (Value.substitute lookup)
    ((t.mergeLayers lookup).combined kind.setting view).assetItems = items ∧
      ((t.mergeLayers lookup).assetStatements view).filter (Statement.addsAsset kind) =
        (compileAssets items).map (.addAsset kind) := by
  have hcombined := combined_mergeLayers lookup t kind.setting_mem hv hm
  refine ⟨?_, ?_⟩
  · rw [hcombined, Value.assetItems]
  · rw [filter_assetStatements, assetsOf, hcombined, Value.assetItems]

def stylesheetLayers : ViewTree :=
  ⟨[("edit", [(.string "stylesheets", .list [.string "form"])]),
    ("default", [(.string "stylesheets", .list [.string "main", .string "%LIB%"])]),
    ("show", [(.string "stylesheets", .list [.string "-lib",
      .record [(.string "print", .record [(.string "position", .string "last")])]])]),
    ("all", [(.string "stylesheets", .list [.string "-main", .string "base"])])]⟩

def libConstant (name : String) : Option String := if name = "lib" then some "lib" else none

theorem assetStatements_stylesheetLayers :
    isReserved "show" = false ∧
      (∀ entries, stylesheetLayers.layerSetting? "show" (AssetKind.setting .stylesheet) ≠
        some (.record entries)) ∧
      ((stylesheetLayers.mergeLayers libConstant).assetStatements "show").filter
          (Statement.addsAsset .stylesheet) =
        [.addAsset .stylesheet ⟨"base", "", []⟩, .addAsset .stylesheet ⟨"print", "last", []⟩] := by
  have hm : ∀ entries, stylesheetLayers.layerSetting? "show" (AssetKind.setting .stylesheet) ≠
      some (.record entries) := by
    intro entries
    have hlist : stylesheetLayers.layerSetting? "show" (AssetKind.setting .stylesheet) =
        some (.list [.string "-lib",
          .record [(.string "print", .record [(.string "position", .string "last")])]]) := by
      cbv
    rw [hlist]
    simp
  have hitems :
      (stylesheetLayers.layeredItems (AssetKind.setting .stylesheet) "show").map
          (Value.substitute libConstant) =
        [.string "main", .string "lib", .string "-main", .string "base", .string "-lib",
          .record [(.string "print", .record [(.string "position", .string "last")])]] := by
    cbv
  refine ⟨by decide, hm, ?_⟩
  rw [(assetStatements_mergeLayers libConstant stylesheetLayers .stylesheet
    (show isReserved "show" = false by decide) fun _ => hm).2, hitems]
  decide +kernel

end ViewTree

end ViewLayers
