import ViewLayers.Proofs.Additive.Append

/-!
# Both layers of an additive setting

An additive setting is that of `all` followed by the view's own. What a view sets itself gets
through whatever `all` has, with one exception: a collection of `all` under a tag counts as a
collection, but nothing can be appended to it.
-/

namespace ViewLayers

namespace Value

@[simp] theorem tagged_append (tag : String) (v extra : Value) :
    (Value.tagged tag v).append extra = .tagged tag v := by
  cases extra <;> rfl

theorem not_isNull_of_isCollection {v : Value} (h : v.isCollection = true) : v.isNull = false := by
  rw [Bool.eq_false_iff, ne_eq, isNull, decide_eq_true_eq]
  intro hnull
  simp [isCollection, hnull] at h

end Value

namespace ViewTree

/-- In `all` the setting is a collection under a tag: more than a scalar, but not to be
appended to. -/
def TaggedCommon (t : ViewTree) (setting : String) : Prop :=
  ∃ tag v, t.layerSetting? commonLayer setting = some (.tagged tag v) ∧ v.isCollection = true

section Common

variable (t : ViewTree) (setting : String)

theorem commonPart_of_isCollection {v : Value}
    (h : t.layerSetting? commonLayer setting = some v) (hv : v.isCollection = true) :
    t.commonPart setting = v := by
  simp [commonPart, ownSetting?, h, Option.filter, Value.not_isNull_of_isCollection hv, hv]

theorem commonPart_cases :
    (∃ items, t.commonPart setting = .list items) ∨
      (∃ r, t.commonPart setting = .record r) ∨ t.TaggedCommon setting := by
  cases hl : t.layerSetting? commonLayer setting with
  | none => exact .inl ⟨[], by simp [commonPart, ownSetting?, hl]⟩
  | some v =>
    cases hv : v.isCollection with
    | false =>
      -- Null, a scalar, or either under a tag: nothing comes from `all`.
      refine .inl ⟨[], ?_⟩
      cases hn : v.isNull <;> simp [commonPart, ownSetting?, hl, Option.filter, hn, hv]
    | true =>
      have hcommon := t.commonPart_of_isCollection setting hl hv
      cases v with
      | list items => exact .inl ⟨items, hcommon⟩
      | record r => exact .inr (.inl ⟨r, hcommon⟩)
      | tagged tag w => exact .inr (.inr ⟨tag, w, hl, hv⟩)
      | _ => simp [Value.isCollection] at hv

end Common

section Own

variable {t : ViewTree} {setting view : String} (hv : view ≠ "") (hc : view ≠ commonLayer)
include hv hc

theorem combined_eq_append {own : Value} (h : t.layerSetting? view setting = some own)
    (hn : own.isNull = false) :
    t.combined setting view = (t.commonPart setting).append own := by
  have hgeneral : ¬ (view = "" ∨ view = commonLayer) := fun h => h.elim hv hc
  simp [combined, hgeneral, ownSetting?, h, Option.filter, hn]

theorem entries_combined_of_taggedCommon (h : t.TaggedCommon setting) :
    (t.combined setting view).entries = [] ∧ (t.commonPart setting).entries = [] := by
  obtain ⟨tag, v, hlayer, hcollection⟩ := h
  have hcommon : t.commonPart setting = .tagged tag v :=
    t.commonPart_of_isCollection setting hlayer hcollection
  have hgeneral : ¬ (view = "" ∨ view = commonLayer) := fun h => h.elim hv hc
  refine ⟨?_, by rw [hcommon]; rfl⟩
  rw [combined, if_neg hgeneral, hcommon]
  cases t.ownSetting? setting view with
  | none => rfl
  | some own => simp only [Value.tagged_append]; rfl

theorem entries_combined_list {items : List Value}
    (h : t.layerSetting? view setting = some (.list items)) (ht : ¬ t.TaggedCommon setting) :
    ∃ start, (t.combined setting view).entries =
      (t.commonPart setting).entries ++ indexedFrom start items := by
  rw [combined_eq_append hv hc h rfl]
  rcases t.commonPart_cases setting with ⟨base, hbase⟩ | ⟨base, hbase⟩ | htagged
  · refine ⟨base.length, ?_⟩
    simp only [hbase, Value.append, Value.entries, indexedFrom_append, Nat.zero_add]
  · refine ⟨Record.nextIndex base, ?_⟩
    simp only [hbase, Value.append, Value.entries, Record.appendItems_eq_append]
  · exact absurd htagged ht

theorem get?_entries_combined_record {more : Record} (hd : Entries.Distinct more)
    (h : t.layerSetting? view setting = some (.record more)) (ht : ¬ t.TaggedCommon setting)
    {e : Value × Value} (he : e ∈ more) :
    Entries.get? (t.combined setting view).entries e.1 = some e.2 := by
  have hput : ∀ base : Record, Entries.get? (Record.putAll base more) e.1 = some e.2 := by
    intro base
    rw [Record.get?_putAll base hd, hd.get?_eq_some_of_mem he, Option.some_or]
  rw [combined_eq_append hv hc h rfl]
  rcases t.commonPart_cases setting with ⟨base, hbase⟩ | ⟨base, hbase⟩ | htagged
  · rw [hbase]
    exact hput _
  · rw [hbase]
    exact hput _
  · exact absurd htagged ht

end Own

/-- A collection that a view sets itself gets through to the combined setting, unless it is not
empty and `all` has a collection under a tag. -/
theorem own_reaches_combined_iff (t : ViewTree) (setting : String) {view : String}
    (hv : view ≠ "") (hc : view ≠ commonLayer) :
    (∀ items, t.layerSetting? view setting = some (.list items) →
      ((∃ start, (t.combined setting view).entries =
          (t.commonPart setting).entries ++ indexedFrom start items) ↔
        (t.TaggedCommon setting → items = []))) ∧
      ∀ more : DistinctEntries Value Value,
        t.layerSetting? view setting = some (.record more.entries) →
        ((∀ e ∈ more.entries, Entries.get? (t.combined setting view).entries e.1 = some e.2) ↔
          (t.TaggedCommon setting → more.entries = [])) := by
  refine ⟨fun items hitems => ⟨?_, fun h => ?_⟩, fun ⟨more, hd⟩ hmore => ⟨?_, fun h => ?_⟩⟩
  · rintro ⟨start, hstart⟩ htagged
    obtain ⟨hcombined, hcommon⟩ := entries_combined_of_taggedCommon hv hc htagged
    rw [hcombined, hcommon, List.nil_append] at hstart
    rw [← List.length_eq_zero_iff, ← length_indexedFrom start items, ← hstart, List.length_nil]
  · by_cases htagged : t.TaggedCommon setting
    · obtain ⟨hcombined, hcommon⟩ := entries_combined_of_taggedCommon hv hc htagged
      exact ⟨0, by rw [hcombined, hcommon, h htagged]; rfl⟩
    · exact entries_combined_list hv hc hitems htagged
  · intro hreach htagged
    obtain ⟨hcombined, -⟩ := entries_combined_of_taggedCommon hv hc htagged
    refine List.eq_nil_iff_forall_not_mem.2 fun e he => ?_
    simpa [hcombined] using hreach e he
  · intro e he
    by_cases htagged : t.TaggedCommon setting
    · have hnone : more = [] := h htagged
      simp [hnone] at he
    · exact get?_entries_combined_record hv hc hd hmore htagged he

def ownHttpMetas : Record := [(.string "x", .string "y"), (.int 0, .null)]

def headLayers : ViewTree :=
  ⟨[("all", [(.string "http_metas", .tagged "off" (.string "none")),
      (.string "metas", .record [(.int 7, .string "a"), (.string "8", .string "b"),
        (.float Binary64.zero, .string "c"), (.tagged "t" (.int 9), .null)])]),
    ("edit", [(.string "metas", .list [.string "d", .null]),
      (.string "http_metas", .record ownHttpMetas)])]⟩

theorem own_reaches_combined_headLayers :
    "edit" ≠ "" ∧ "edit" ≠ commonLayer ∧
      (headLayers.layerSetting? "edit" "metas" = some (.list [.string "d", .null]) ∧
        ∃ start, (headLayers.combined "metas" "edit").entries =
          (headLayers.commonPart "metas").entries ++ indexedFrom start [.string "d", .null]) ∧
      Entries.Distinct ownHttpMetas ∧
      headLayers.layerSetting? "edit" "http_metas" = some (.record ownHttpMetas) ∧
      ∀ e ∈ ownHttpMetas,
        Entries.get? (headLayers.combined "http_metas" "edit").entries e.1 = some e.2 := by
  have hmetas : headLayers.layerSetting? "edit" "metas" = some (.list [.string "d", .null]) := by
    decide +kernel
  have hhttp : headLayers.layerSetting? "edit" "http_metas" = some (.record ownHttpMetas) := by
    decide +kernel
  have hd : Entries.Distinct ownHttpMetas := by decide +kernel
  have hbare : ¬ headLayers.TaggedCommon "metas" := by
    rintro ⟨tag, v, h, -⟩
    have hrecord : (headLayers.layerSetting? commonLayer "metas").map Value.kindName =
        some "Mapping" := by
      decide +kernel
    rw [h] at hrecord
    simp [Value.kindName] at hrecord
  have hscalar : ¬ headLayers.TaggedCommon "http_metas" := by
    rintro ⟨tag, v, h, hcollection⟩
    have htext : (headLayers.layerSetting? commonLayer "http_metas").map Value.isCollection =
        some false := by
      decide +kernel
    rw [h, Option.map_some, Option.some.injEq] at htext
    exact absurd (hcollection.symm.trans htext) (by decide)
  have hedit : "edit" ≠ "" := by decide
  have hcommon : "edit" ≠ commonLayer := by decide
  have hlist := (own_reaches_combined_iff headLayers "metas" hedit hcommon).1 _ hmetas
  have hrecord :=
    (own_reaches_combined_iff headLayers "http_metas" hedit hcommon).2 ⟨ownHttpMetas, hd⟩ hhttp
  exact ⟨hedit, hcommon, ⟨hmetas, hlist.2 fun h => absurd h hbare⟩, hd, hhttp,
    hrecord.2 fun h => absurd h hscalar⟩

def taggedLayers : ViewTree :=
  ⟨[("all", [(.string "metas", .tagged "t" (.record []))]),
    ("edit", [(.string "metas", .record [(.string "title", .string "x")])])]⟩

theorem combined_taggedLayers :
    taggedLayers.layerSetting? "edit" "metas" =
        some (.record [(.string "title", .string "x")]) ∧
      (taggedLayers.combined "metas" "edit").entries = [] ∧
      Entries.get? (taggedLayers.combined "metas" "edit").entries (.string "title") ≠
        some (.string "x") := by
  decide +kernel

end ViewTree

end ViewLayers
