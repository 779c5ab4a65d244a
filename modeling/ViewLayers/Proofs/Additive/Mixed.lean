import ViewLayers.Proofs.Additive.Combined

/-!
# A list and a record in one setting

One layer may have a list where the other has a record. The list items then stand under
numbers. They lose nothing to a record of `all`, whose numbers they avoid; a record that the
view puts on a list of `all` takes the places of the items whose numbers it uses.
-/

namespace ViewLayers

namespace Record

/-- A record that has every entry of another and, under numbers that the other does not use,
the items of a list in order, and nothing else. -/
structure Gathers (record : Record) (items : List Value) (whole : Record) : Prop where
  entries_kept : ∀ e ∈ record, Entries.get? whole e.1 = some e.2
  items_numbered : ∃ start, news record whole = indexedFrom start items
  length_eq : whole.length = record.length + items.length

section Gathers

variable {record : Record} {items : List Value}

theorem has_indexedFrom_iff {k : Value} :
    Entries.has (indexedFrom 0 items) k = true ↔ ∃ i < items.length, (k == .int i) = true := by
  constructor
  · intro h
    obtain ⟨e, he, hk⟩ := List.any_eq_true.1 h
    obtain ⟨i, -, hlt, hkey⟩ := exists_of_mem_indexedFrom he
    refine ⟨i, by omega, ?_⟩
    rw [BEq.comm, ← hkey]
    exact hk
  · rintro ⟨i, hlt, hk⟩
    rw [Entries.has_congr _ hk, Entries.has_eq_isSome_get?, get?_indexedFrom]
    simpa using hlt

theorem news_indexedFrom_eq_self_iff :
    news (indexedFrom 0 items) record = record ↔
      ∀ i < items.length, Entries.has record (.int i) = false := by
  rw [news, List.filter_eq_self]
  constructor
  · intro h i hi
    refine List.any_eq_false.2 fun e he hk => ?_
    simpa [has_indexedFrom_iff.2 ⟨i, hi, hk⟩] using h e he
  · intro h e he
    rw [Bool.not_eq_true', Bool.eq_false_iff]
    intro hhas
    obtain ⟨i, hi, hk⟩ := has_indexedFrom_iff.1 hhas
    exact List.any_eq_false.1 (h i hi) e he hk

theorem gathers_appendItems (hd : Entries.Distinct record) :
    record.Gathers items (record.appendItems items) where
  entries_kept := by
    intro e he
    rw [appendItems_eq_append, Entries.get?_append, hd.get?_eq_some_of_mem he,
      Option.some_or]
  items_numbered := by
    refine ⟨nextIndex record, ?_⟩
    rw [appendItems_eq_append, news_append, news_self, List.nil_append]
    refine news_indexedFrom fun i hle _ => ?_
    rw [Entries.has_eq_isSome_get?, get?_int_of_nextIndex_le record hle, Option.isSome_none]
  length_eq := by
    rw [appendItems_eq_append, List.length_append, length_indexedFrom]

theorem gathers_putAll_iff (hd : Entries.Distinct record) :
    record.Gathers items (putAll (indexedFrom 0 items) record) ↔
      ∀ i < items.length, Entries.has record (.int i) = false := by
  rw [← news_indexedFrom_eq_self_iff]
  have hsum : (indexedFrom 0 items).length + record.length = record.length + items.length := by
    rw [length_indexedFrom, Nat.add_comm]
  constructor
  · intro h
    -- No entry of the record went into the place of an item, so all of them are new.
    exact (length_putAll_eq_add_iff _ hd).1 (h.length_eq.trans hsum.symm)
  · intro hnew
    refine ⟨fun e he => ?_, ⟨0, ?_⟩, ?_⟩
    · rw [get?_putAll _ hd, hd.get?_eq_some_of_mem he, Option.some_or]
    · rw [putAll_eq_append hd hnew, news_append, news_self, List.append_nil]
      refine news_indexedFrom fun i _ hlt => ?_
      exact news_indexedFrom_eq_self_iff.1 hnew i (by omega)
    · rw [(length_putAll_eq_add_iff _ hd).2 hnew, hsum]

end Gathers

end Record

namespace ViewTree

/-- A list and a record lose nothing when the record is that of `all`. When it is the view's,
it has the say, and nothing is lost exactly when it uses no number of the list. -/
theorem combined_list_record (t : ViewTree) (setting : String) {view : String}
    (hv : view ≠ "") (hc : view ≠ commonLayer) (keyed : DistinctEntries Value Value)
    (items : List Value) :
    let record : Record := keyed.entries
    (t.layerSetting? commonLayer setting = some (.record record) →
      t.layerSetting? view setting = some (.list items) →
      ∃ whole, t.combined setting view = .record whole ∧ record.Gathers items whole) ∧
    (t.layerSetting? commonLayer setting = some (.list items) →
      t.layerSetting? view setting = some (.record record) →
      ∃ whole, t.combined setting view = .record whole ∧
        (∀ k, Entries.get? whole k =
          (Entries.get? record k).or (Entries.get? (indexedFrom 0 items) k)) ∧
        (record.Gathers items whole ↔
          ∀ i < items.length, Entries.has record (.int i) = false)) := by
  intro record
  have hd : Entries.Distinct record := keyed.distinct
  constructor
  · intro hcommon hown
    refine ⟨record.appendItems items, ?_, Record.gathers_appendItems hd⟩
    rw [combined_eq_append hv hc hown rfl, t.commonPart_of_isCollection setting hcommon rfl,
      Value.append]
  · intro hcommon hown
    refine ⟨Record.putAll (indexedFrom 0 items) record, ?_,
      fun k => Record.get?_putAll _ hd k, Record.gathers_putAll_iff hd⟩
    rw [combined_eq_append hv hc hown rfl, t.commonPart_of_isCollection setting hcommon rfl,
      Value.append, Record.nil_appendItems]

def numberedMetas : Record :=
  [(.int 1, .string "a"), (.string "2", .string "b"), (.int (-3), .null),
    (.tagged "t" (.int 4), .string "c")]

def textMetas : Record := [(.string "0", .string "q"), (.int 2, .null)]

def mixedLayers : ViewTree :=
  ⟨[("all", [(.string "metas", .record numberedMetas),
      (.string "http_metas", .list [.string "p", .null])]),
    ("edit", [(.string "metas", .list [.string "d", .null]),
      (.string "http_metas", .record textMetas)])]⟩

theorem combined_mixedLayers :
    "edit" ≠ "" ∧ "edit" ≠ commonLayer ∧
      Entries.Distinct numberedMetas ∧ Entries.Distinct textMetas ∧
      (∃ whole, mixedLayers.combined "metas" "edit" = .record whole ∧
        numberedMetas.Gathers [.string "d", .null] whole) ∧
      ∃ whole, mixedLayers.combined "http_metas" "edit" = .record whole ∧
        textMetas.Gathers [.string "p", .null] whole := by
  have hedit : "edit" ≠ "" := by decide
  have hcommon : "edit" ≠ commonLayer := by decide
  have hmetas : Entries.Distinct numberedMetas := by decide +kernel
  have hhttp : Entries.Distinct textMetas := by decide +kernel
  refine ⟨hedit, hcommon, hmetas, hhttp, ?_, ?_⟩
  · have hlaw := (combined_list_record mixedLayers "metas" hedit hcommon ⟨numberedMetas, hmetas⟩
      [.string "d", .null]).1
    dsimp only at hlaw
    exact hlaw (by decide +kernel) (by decide +kernel)
  · have hlaw := (combined_list_record mixedLayers "http_metas" hedit hcommon ⟨textMetas, hhttp⟩
      [.string "p", .null]).2
    dsimp only at hlaw
    obtain ⟨whole, hwhole, -, hgathers⟩ := hlaw (by decide +kernel) (by decide +kernel)
    exact ⟨whole, hwhole, hgathers.2 (by decide +kernel)⟩

def overlappingLayers : ViewTree :=
  ⟨[("all", [(.string "metas", .list [.string "a"])]),
    ("edit", [(.string "metas", .record [(.int 0, .string "x")])])]⟩

/-- The item of `all` is gone: the view's entry stands in its place. -/
theorem combined_overlappingLayers :
    overlappingLayers.layerSetting? commonLayer "metas" = some (.list [.string "a"]) ∧
      overlappingLayers.layerSetting? "edit" "metas" = some (.record [(.int 0, .string "x")]) ∧
      overlappingLayers.combined "metas" "edit" = .record [(.int 0, .string "x")] ∧
      ¬ Record.Gathers [(.int 0, .string "x")] [.string "a"] [(.int 0, .string "x")] := by
  refine ⟨by decide +kernel, by decide +kernel, by decide +kernel, fun h => ?_⟩
  exact absurd h.length_eq (by decide)

end ViewTree

end ViewLayers
