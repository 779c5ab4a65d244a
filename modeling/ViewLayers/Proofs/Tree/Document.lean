import ViewLayers.Proofs.Layers.Views
import ViewLayers.Proofs.Layers.WithoutDefault
import ViewLayers.Sources

/-!
# Trees and their documents

A tree has every view once. Reading keeps this, since a later key of a name that is there takes
its place, and so does every operation on trees. So a tree is what its own document is read as.
-/

namespace ViewLayers

namespace ViewTree

inductive Initial : ViewTree → Prop where
  | empty : Initial .empty
  | ofValue {source : String} {v : Value} {t : ViewTree} : ofValue? source v = .ok t → Initial t
  | loaded {files : FileTree} {paths : List String} {t : ViewTree} :
      (loadTree files paths).1 = .ok t → Initial t

inductive Edit where
  | insert (view : String) (config : Record)
  | remove (view : String)
  | change (view : String) (f : Record → Record)
  | entry (view : String) (f : Record → Record)
  | changeAll (f : String → Record → Record)
  | merge (lookup : String → Option String)

def Edit.apply (t : ViewTree) : Edit → ViewTree
  | .insert view config => t.insert view config
  | .remove view => t.remove view
  | .change view f => t.modify view f
  | .entry view f => (t.ensure view).modify view f
  | .changeAll f => ⟨t.views.map fun e => (e.1, f e.1 e.2)⟩
  | .merge lookup => t.mergeLayers lookup

def run (edits : List Edit) (t : ViewTree) : ViewTree := edits.foldl Edit.apply t

section Reading

variable {source : String} {v : Value} {entries : Record}

theorem names_ofEntries (entries : Record) :
    (ofEntries entries).names = (entries.map fun e => e.1.keyText).eraseDups := by
  have hkeys : (Entries.keys (entries.map fun e => (e.1.keyText, configOf e.2))) =
      entries.map fun e => e.1.keyText := by
    rw [Entries.keys, List.map_map]
    rfl
  rw [names, ofEntries, Entries.keys_ofPairs, hkeys]

theorem get?_ofEntries_eq_getLast? (entries : Record) (view : String) :
    (ofEntries entries).get? view =
      (entries.filter fun e => e.1.keyText = view).getLast?.map fun e => configOf e.2 :=
  Entries.get?_ofPairs_map (fun e : Value × Value => e.1.keyText) (fun e => configOf e.2)
    entries view

theorem ofValue?_of_record (h : v.untagged = .record entries) :
    ofValue? source v = .ok (ofEntries entries) := by
  rw [ofValue?, h]

end Reading

theorem distinct_iff_nodup_names {t : ViewTree} : Entries.Distinct t.views ↔ t.names.Nodup := by
  rw [Entries.distinct_iff_pairwise_keys, List.Nodup]
  simp only [beq_eq_false_iff_ne]
  rfl

theorem nodup_names_ofEntries (entries : Record) : (ofEntries entries).names.Nodup :=
  distinct_iff_nodup_names.1 (Entries.distinct_ofPairs _)

theorem Initial.nodup_names {t : ViewTree} (h : t.Initial) : t.names.Nodup := by
  cases h with
  | empty => exact List.nodup_nil
  | @ofValue source v _ h =>
    rw [ofValue?] at h
    split at h
    · cases h
      exact List.nodup_nil
    · cases h
      exact nodup_names_ofEntries _
    · cases h
  | @loaded files paths _ h =>
    rw [loadTree] at h
    split at h
    · cases h
    · cases h
      exact nodup_names_ofEntries _

section Edits

variable {t : ViewTree}

theorem names_modify (t : ViewTree) (view : String) (f : Record → Record) :
    (t.modify view f).names = t.names := Entries.keys_modify t.views view f

theorem names_ensure (t : ViewTree) (view : String) :
    (t.ensure view).names = t.names ++ if t.has view then [] else [view] := by
  cases h : t.has view with
  | true => rw [ensure, h, if_pos rfl, if_pos rfl, List.append_nil]
  | false => rw [ensure, h, if_neg Bool.false_ne_true, names_insert, h]

theorem nodup_names_append (h : t.names.Nodup) (view : String) :
    (t.names ++ if t.has view then [] else [view]).Nodup := by
  cases hview : t.has view with
  | true => rwa [if_pos rfl, List.append_nil]
  | false =>
    have habsent : view ∉ t.names := by
      intro hmem
      have hhas : t.has view = true := Entries.mem_keys_iff.1 hmem
      rw [hview] at hhas
      exact Bool.false_ne_true hhas
    rw [if_neg Bool.false_ne_true, List.nodup_append]
    refine ⟨h, List.pairwise_singleton _ view, fun name hname other hother => ?_⟩
    rw [List.mem_singleton.1 hother]
    exact fun heq => habsent (heq ▸ hname)

theorem Edit.nodup_names_apply (h : t.names.Nodup) (e : Edit) : (e.apply t).names.Nodup := by
  cases e with
  | insert view config =>
    rw [apply, names_insert]
    exact nodup_names_append h view
  | remove view =>
    rw [apply, names_remove]
    exact h.filter _
  | change view f =>
    rw [apply, names_modify]
    exact h
  | entry view f =>
    rw [apply, names_modify, names_ensure]
    exact nodup_names_append h view
  | changeAll f =>
    have hnames : (Edit.apply t (.changeAll f)).names = t.names :=
      Entries.keys_map_value t.views fun e => f e.1 e.2
    rwa [hnames]
  | merge lookup =>
    rw [apply, names_mergeLayers]
    exact (nodup_names_append h commonLayer).sublist
      (List.filter_sublist.append (List.Sublist.refl _))

theorem nodup_names_run (h : t.names.Nodup) (edits : List Edit) : (run edits t).names.Nodup := by
  induction edits generalizing t with
  | nil => exact h
  | cons e edits ih => exact ih (e.nodup_names_apply h)

end Edits

theorem ofValue?_toValue_eq_ok_iff {source : String} {t : ViewTree} :
    ofValue? source t.toValue = .ok t ↔ t.names.Nodup := by
  have hread : ofValue? source t.toValue = .ok ⟨Entries.ofPairs t.views⟩ := by
    have hpairs : ((t.views.map fun e => (Value.string e.1, Value.record e.2)).map fun e =>
        (e.1.keyText, configOf e.2)) = t.views := by
      rw [List.map_map]
      exact List.map_id t.views
    have hrecord : t.toValue.untagged =
        .record (t.views.map fun e => (.string e.1, .record e.2)) := rfl
    rw [ofValue?_of_record hrecord, ofEntries, hpairs]
  rw [hread]
  constructor
  · intro h
    have ht : (⟨Entries.ofPairs t.views⟩ : ViewTree) = t := Except.ok.inj h
    rw [← ht]
    exact distinct_iff_nodup_names.1 (Entries.distinct_ofPairs t.views)
  · intro h
    rw [Entries.Distinct.ofPairs_eq (distinct_iff_nodup_names.2 h)]

/-- A record, under any tags, is read as the tree of the names of its keys, in the order in which
they come first, each with the settings of its last key. And whatever is done to a tree, its
document is read as the tree itself. -/
theorem ofValue?_document :
    (∀ {v : Value} {entries : Record}, v.untagged = .record entries → ∀ source, ∃ t,
      ofValue? source v = .ok t ∧ t.names.Nodup ∧
        t.names = (entries.map fun e => e.1.keyText).eraseDups ∧
        ∀ view, t.get? view =
          (entries.filter fun e => e.1.keyText = view).getLast?.map fun e => configOf e.2) ∧
      ∀ {t : ViewTree}, t.Initial → ∀ edits source,
        ofValue? source (run edits t).toValue = .ok (run edits t) := by
  constructor
  · intro v entries h source
    exact ⟨ofEntries entries, ofValue?_of_record h, nodup_names_ofEntries entries,
      names_ofEntries entries, get?_ofEntries_eq_getLast? entries⟩
  · intro t h edits source
    exact ofValue?_toValue_eq_ok_iff.2 (nodup_names_run h.nodup_names edits)

def missingPages : Record :=
  [(.int 404, .record [(.string "layout", .string "base")]), (.string "all", .null),
    (.tagged "page" (.string "404"), .record [(.string "template", .string "missing")]),
    (.string "404", .tagged "page" (.record [(.string "layout", .string "wide")]))]

def missingEdits : List Edit :=
  [.remove "404", .entry "404" fun config => config ++ [(.string "layout", .null)],
    .change "edit" fun _ => [], .insert "default" [(.string "stylesheets", .list [])],
    .changeAll fun view config => if view = "404" then config else [], .merge fun _ => none]

theorem ofValue?_document_missingPages :
    Value.untagged (.tagged "site" (.record missingPages)) = .record missingPages ∧
      (ofEntries missingPages).Initial ∧
      (∃ t, ofValue? "site" (.tagged "site" (.record missingPages)) = .ok t ∧ t.names.Nodup ∧
        t.names = (missingPages.map fun e => e.1.keyText).eraseDups ∧
        ∀ view, t.get? view =
          (missingPages.filter fun e => e.1.keyText = view).getLast?.map fun e => configOf e.2) ∧
      ofValue? "again" (run missingEdits (ofEntries missingPages)).toValue =
        .ok (run missingEdits (ofEntries missingPages)) := by
  have hread : ofValue? "site" (.tagged "site" (.record missingPages)) =
      .ok (ofEntries missingPages) := rfl
  have hinitial : (ofEntries missingPages).Initial := .ofValue hread
  exact ⟨rfl, hinitial, ofValue?_document.1 rfl "site", ofValue?_document.2 hinitial _ "again"⟩

end ViewTree

end ViewLayers
