import Mathlib
import ViewLayers.Proofs.Overlay
import ViewLayers.Proofs.Yaml.Keys
import ViewLayers.Sources

/-!
# Files laid over each other

Files are laid over each other before their keys are read as names of views. So a view gets what
all files say under one key of its name, and where files spell the name differently, the spelling
that first comes last takes the view from the others.
-/

namespace ViewLayers

namespace Record

def layAll (layers : List Record) : Record := layers.foldl overlay []

def layered? (configs : List Record) : Option Record :=
  if configs.isEmpty then none else some (layAll configs)

def configsAt (layers : List Record) (k : Value) : List Record :=
  layers.filterMap fun layer => (Entries.get? layer k).map ViewTree.configOf

def firstKeys (layers : List Record) : List Value :=
  layers.foldl (fun seen r => seen ++ r.keys.filter fun k => !seen.any (· == k)) []

/-- Of the keys with the name of a view, the one that first comes last. -/
def takingKey? (layers : List Record) (view : String) : Option Value :=
  ((firstKeys layers).filter fun k => k.keyText = view).getLast?

/-- The layers spell a view in one way: a key like one with its name has the name too, and no
other key has. -/
def SpelledAlike (layers : List Record) (view : String) : Prop :=
  ∀ k ∈ layers.flatMap Entries.keys, k.keyText = view →
    ∀ l ∈ layers.flatMap Entries.keys, l.keyText = view ↔ (l == k) = true

instance (layers : List Record) (view : String) : Decidable (SpelledAlike layers view) :=
  inferInstanceAs <| Decidable <| ∀ k ∈ layers.flatMap Entries.keys, k.keyText = view →
    ∀ l ∈ layers.flatMap Entries.keys, l.keyText = view ↔ (l == k) = true

def OfRecords (r : Record) : Prop := ∀ e ∈ r, ∃ config, e.2 = .record config

theorem OfRecords.get?_cases {r : Record} (h : r.OfRecords) (k : Value) :
    Entries.get? r k = none ∨ ∃ config, Entries.get? r k = some (.record config) := by
  induction r with
  | nil => exact .inl rfl
  | cons e rest ih =>
    by_cases hk : (e.1 == k) = true
    · obtain ⟨config, hconfig⟩ := h e List.mem_cons_self
      exact .inr ⟨config, by simp [hk, hconfig]⟩
    · have hrest := ih fun f hf => h f (List.mem_cons_of_mem e hf)
      simpa [hk] using hrest

section OneMore

variable (layers : List Record) (r : Record)

theorem layAll_concat : layAll (layers ++ [r]) = overlay (layAll layers) r := by
  rw [layAll, List.foldl_append]
  rfl

theorem layered?_concat :
    layered? (layers ++ [r]) = some (((layered? layers).getD []).overlay r) := by
  have hlast : (layers ++ [r]).isEmpty = false := by simp
  rw [layered?, hlast, if_neg Bool.false_ne_true, layAll_concat]
  cases layers with
  | nil => rfl
  | cons first rest => rfl

theorem configsAt_concat (k : Value) :
    configsAt (layers ++ [r]) k =
      configsAt layers k ++ ((Entries.get? r k).map ViewTree.configOf).toList := by
  rw [configsAt, List.filterMap_append]
  cases h : Entries.get? r k <;> simp [configsAt, h]

theorem firstKeys_concat :
    firstKeys (layers ++ [r]) =
      firstKeys layers ++ r.keys.filter fun k => !(firstKeys layers).any (· == k) := by
  rw [firstKeys, List.foldl_append]
  rfl

end OneMore

theorem keys_layAll (layers : List Record) : Entries.keys (layAll layers) = firstKeys layers := by
  induction layers using List.reverseRecOn with
  | nil => rfl
  | append_singleton below r ih =>
    rw [layAll_concat, keys_overlay, firstKeys_concat, ← ih]
    simp only [Entries.has_eq_any_keys]

theorem has_layAll (layers : List Record) (k : Value) :
    Entries.has (layAll layers) k = layers.any fun r => Entries.has r k := by
  induction layers using List.reverseRecOn with
  | nil => rfl
  | append_singleton below r ih => rw [layAll_concat, has_overlay, ih]; simp

theorem distinct_layAll {layers : List Record} (h : ∀ r ∈ layers, Entries.Distinct r) :
    Entries.Distinct (layAll layers) := by
  induction layers using List.reverseRecOn with
  | nil => exact List.Pairwise.nil
  | append_singleton below r ih =>
    have hbelow := ih fun layer hlayer => h layer (List.mem_append_left _ hlayer)
    rw [layAll_concat]
    exact distinct_overlay hbelow (h r (by simp))

theorem get?_layAll {layers : List Record} (h : ∀ r ∈ layers, r.OfRecords) (k : Value) :
    Entries.get? (layAll layers) k = (layered? (configsAt layers k)).map .record := by
  induction layers using List.reverseRecOn with
  | nil => rfl
  | append_singleton below r ih =>
    have hbelow := ih fun layer hlayer => h layer (List.mem_append_left _ hlayer)
    rw [layAll_concat, get?_overlay, hbelow, configsAt_concat]
    rcases (h r (by simp)).get?_cases k with hnone | ⟨config, hconfig⟩
    · rw [hnone, Option.map_none, Option.toList_none, List.append_nil]
      cases layered? (configsAt below k) <;> rfl
    · rw [hconfig, Option.map_some, Option.toList_some, ViewTree.configOf, layered?_concat]
      cases layered? (configsAt below k) with
      | none => exact congrArg (fun c => some (Value.record c)) (nil_overlay config).symm
      | some base => exact congrArg some (Value.overlaid_records base config)

theorem exists_mem_of_mem_firstKeys {layers : List Record} {k : Value}
    (h : k ∈ firstKeys layers) : ∃ r ∈ layers, k ∈ Entries.keys r := by
  induction layers using List.reverseRecOn with
  | nil => cases h
  | append_singleton below r ih =>
    rw [firstKeys_concat, List.mem_append] at h
    rcases h with hbelow | hr
    · obtain ⟨layer, hlayer, hk⟩ := ih hbelow
      exact ⟨layer, List.mem_append_left _ hlayer, hk⟩
    · exact ⟨r, by simp, (List.mem_filter.1 hr).1⟩

theorem exists_beq_of_mem_keys {layers : List Record} {r : Record} (hr : r ∈ layers) {k : Value}
    (hk : k ∈ Entries.keys r) : ∃ l ∈ firstKeys layers, (l == k) = true := by
  have hhas : Entries.has r k = true := by
    rw [Entries.has_eq_any_keys, List.any_eq_true]
    exact ⟨k, hk, BEq.rfl⟩
  have hall : Entries.has (layAll layers) k = true := by
    rw [has_layAll, List.any_eq_true]
    exact ⟨r, hr, hhas⟩
  rwa [Entries.has_eq_any_keys, keys_layAll, List.any_eq_true] at hall

end Record

section Named

variable {entries : Record} {view : String}

theorem ViewTree.get?_ofEntries (hd : Entries.Distinct entries) (view : String) :
    (ofEntries entries).get? view =
      ((Entries.keys entries).filter fun k => k.keyText = view).getLast?.bind fun k =>
        (Entries.get? entries k).map configOf := by
  have hlast : (ofEntries entries).get? view =
      (entries.filter fun e => e.1.keyText = view).getLast?.map fun e => configOf e.2 :=
    Entries.get?_ofPairs_map (fun e : Value × Value => e.1.keyText) (fun e => configOf e.2)
      entries view
  rw [hlast, ← Entries.keys_filter_key entries fun k => k.keyText = view, Entries.keys,
    List.getLast?_map]
  cases hlast : (entries.filter fun e => e.1.keyText = view).getLast? with
  | none => rfl
  | some e =>
    have he : e ∈ entries := (List.mem_filter.1 (List.mem_of_getLast? hlast)).1
    simp only [Option.map_some, Option.bind_some, hd.get?_eq_some_of_mem he]

theorem ViewTree.get?_ofEntries_of_iff (hd : Entries.Distinct entries) {k : Value}
    (h : ∀ l ∈ Entries.keys entries, l.keyText = view ↔ (l == k) = true) :
    (ofEntries entries).get? view = (Entries.get? entries k).map configOf := by
  have hfilter : ((Entries.keys entries).filter fun l => l.keyText = view) =
      (Entries.keys entries).filter fun l => l == k := by
    refine List.filter_congr fun l hl => ?_
    rw [Bool.eq_iff_iff, decide_eq_true_iff]
    exact h l hl
  rw [get?_ofEntries hd, hfilter]
  cases hlast : ((Entries.keys entries).filter fun l => l == k).getLast? with
  | none =>
    have hnone : Entries.has entries k = false := by
      rw [Entries.has_eq_any_keys, List.any_eq_false]
      exact List.filter_eq_nil_iff.1 (List.getLast?_eq_none_iff.1 hlast)
    rw [Entries.has_eq_isSome_get?, Option.isSome_eq_false_iff, Option.isNone_iff_eq_none] at hnone
    rw [hnone]
    rfl
  | some l =>
    have hl : (l == k) = true := (List.mem_filter.1 (List.mem_of_getLast? hlast)).2
    rw [Option.bind_some, Entries.get?_congr entries hl]

end Named

namespace Record

variable {layers : List Record} {view : String}

theorem mem_of_takingKey? {k : Value} (h : takingKey? layers view = some k) :
    k ∈ layers.flatMap Entries.keys ∧ k.keyText = view := by
  obtain ⟨hk, hview⟩ := List.mem_filter.1 (List.mem_of_getLast? h)
  obtain ⟨r, hr, hkr⟩ := exists_mem_of_mem_firstKeys hk
  exact ⟨List.mem_flatMap.2 ⟨r, hr, hkr⟩, of_decide_eq_true hview⟩

theorem SpelledAlike.keyText_ne (halike : SpelledAlike layers view)
    (h : takingKey? layers view = none) {r : Record} (hr : r ∈ layers) {k : Value}
    (hk : k ∈ Entries.keys r) : k.keyText ≠ view := by
  intro hview
  obtain ⟨l, hl, hlk⟩ := exists_beq_of_mem_keys hr hk
  obtain ⟨s, hs, hls⟩ := exists_mem_of_mem_firstKeys hl
  have hlview : l.keyText = view :=
    (halike k (List.mem_flatMap.2 ⟨r, hr, hk⟩) hview l (List.mem_flatMap.2 ⟨s, hs, hls⟩)).2 hlk
  have hnone := List.filter_eq_nil_iff.1 (List.getLast?_eq_none_iff.1 h) l hl
  exact hnone (decide_eq_true hlview)

theorem get?_ofEntries_layAll (hd : ∀ r ∈ layers, Entries.Distinct r)
    (hrecords : ∀ r ∈ layers, r.OfRecords) (view : String) :
    (ViewTree.ofEntries (layAll layers)).get? view =
      (takingKey? layers view).bind fun k => layered? (configsAt layers k) := by
  rw [ViewTree.get?_ofEntries (distinct_layAll hd), keys_layAll]
  refine congrArg ((takingKey? layers view).bind ·) (funext fun k => ?_)
  rw [get?_layAll hrecords, Option.map_map]
  exact Option.map_id'

theorem SpelledAlike.bind_takingKey? (halike : SpelledAlike layers view)
    (hd : ∀ r ∈ layers, Entries.Distinct r) :
    ((takingKey? layers view).bind fun k => layered? (configsAt layers k)) =
      layered? (layers.filterMap fun r => (ViewTree.ofEntries r).get? view) := by
  cases hkey : takingKey? layers view with
  | none =>
    have hnone : layers.filterMap (fun r => (ViewTree.ofEntries r).get? view) = [] := by
      rw [List.filterMap_eq_nil_iff]
      intro r hr
      have hfree : ((Entries.keys r).filter fun k => k.keyText = view) = [] := by
        rw [List.filter_eq_nil_iff]
        intro k hk
        simpa using halike.keyText_ne hkey hr hk
      rw [ViewTree.get?_ofEntries (hd r hr), hfree]
      rfl
    rw [hnone]
    rfl
  | some k =>
    obtain ⟨hk, hview⟩ := mem_of_takingKey? hkey
    have heach : ∀ r ∈ layers,
        (Entries.get? r k).map ViewTree.configOf = (ViewTree.ofEntries r).get? view := by
      intro r hr
      refine (ViewTree.get?_ofEntries_of_iff (hd r hr) fun l hl => ?_).symm
      exact halike k hk hview l (List.mem_flatMap.2 ⟨r, hr, hl⟩)
    rw [Option.bind_some, configsAt, List.filterMap_congr heach]

end Record

section Files

variable {files : FileTree} {path text : String} {layer : Record}

theorem FileTree.readText_of_find (h : files.find path = .ok (.file text.toUTF8)) :
    files.readText path = .ok text := by
  have htext : String.fromUTF8? text.toUTF8 = some text := by
    rw [String.fromUTF8?, String.toUTF8_eq_toByteArray, dif_pos text.isValidUTF8]
    rfl
  simp only [readText, h, Except.bind, bind, htext]

theorem Record.ofFile_of_find (hfile : files.find path = .ok (.file text.toUTF8))
    (hread : Yaml.read text = .ok (.record layer)) : (ofFile files path).1 = .ok layer := by
  rw [ofFile, FileTree.readText_of_find hfile]
  simp only [ofText, hread]

theorem Record.keyed_of_ofFile (h : (ofFile files path).1 = .ok layer) : layer.Keyed := by
  rw [ofFile] at h
  split at h
  · cases h
  rw [ofText] at h
  split at h
  · cases h
  · cases h
    exact Value.keyed_record_iff.2 ⟨List.Pairwise.nil, fun e he => by cases he⟩
  · rename_i hread
    cases h
    exact Yaml.keyed_of_read hread
  · cases h

end Files

def FileTree.Holds (files : FileTree) : List String → List Record → Prop :=
  List.Forall₂ fun path layer => (Record.ofFile files path).1 = .ok layer

section Holds

variable {files : FileTree} {paths : List String} {layers : List Record}

theorem FileTree.Holds.keyed (h : files.Holds paths layers) : ∀ layer ∈ layers, layer.Keyed := by
  induction h with
  | nil => simp
  | cons hread _ ih => exact List.forall_mem_cons.2 ⟨Record.keyed_of_ofFile hread, ih⟩

theorem FileTree.Holds.distinct (h : files.Holds paths layers) :
    ∀ layer ∈ layers, Entries.Distinct layer :=
  fun layer hlayer => (Value.keyed_record_iff.1 (h.keyed layer hlayer)).1

theorem FileTree.Holds.layFiles_eq (h : files.Holds paths layers) (below : Record) :
    (layFiles files below paths).1 = .ok (layers.foldl Record.overlay below) := by
  induction h generalizing below with
  | nil => rfl
  | @cons path layer _ _ hread _ ih =>
    obtain ⟨notices, hfile⟩ : ∃ notices, Record.ofFile files path = (.ok layer, notices) :=
      ⟨_, Prod.ext hread rfl⟩
    rw [layFiles, hfile]
    exact ih (Record.overlay below layer)

theorem FileTree.Holds.loadTree_eq (h : files.Holds paths layers) :
    (loadTree files paths).1 = .ok (.ofEntries (Record.layAll layers)) := by
  obtain ⟨notices, hfiles⟩ :
      ∃ notices, layFiles files [] paths = (.ok (Record.layAll layers), notices) :=
    ⟨_, Prod.ext (h.layFiles_eq []) rfl⟩
  rw [loadTree, hfiles]

/-- Every view gets the settings that the files give it under one key, laid over each other in
turn. Where the files spell the view in one way, that is all they say of the view. -/
theorem get?_loadTree (hfiles : files.Holds paths layers)
    (hrecords : ∀ layer ∈ layers, layer.OfRecords) :
    ∃ tree, (loadTree files paths).1 = .ok tree ∧
      (∀ view, tree.get? view =
        (Record.takingKey? layers view).bind fun k =>
          Record.layered? (Record.configsAt layers k)) ∧
      ∀ view, Record.SpelledAlike layers view →
        tree.get? view =
          Record.layered? (layers.filterMap fun layer => (ViewTree.ofEntries layer).get? view) := by
  have htaken := Record.get?_ofEntries_layAll hfiles.distinct hrecords
  refine ⟨_, hfiles.loadTree_eq, htaken, fun view halike => ?_⟩
  rw [htaken view]
  exact halike.bind_takingKey? hfiles.distinct

end Holds

def threeFiles (a b c : String) : FileTree :=
  ⟨[(["a"], .file a.toUTF8), (["b"], .file b.toUTF8), (["c"], .file c.toUTF8)]⟩

theorem holds_threeFiles {a b c : String} {r s t : Record} (ha : Yaml.read a = .ok (.record r))
    (hb : Yaml.read b = .ok (.record s)) (hc : Yaml.read c = .ok (.record t)) :
    (threeFiles a b c).Holds ["a", "b", "c"] [r, s, t] := by
  have hfindA : (threeFiles a b c).find "a" = .ok (.file a.toUTF8) := by cbv
  have hfindB : (threeFiles a b c).find "b" = .ok (.file b.toUTF8) := by cbv
  have hfindC : (threeFiles a b c).find "c" = .ok (.file c.toUTF8) := by cbv
  exact .cons (Record.ofFile_of_find hfindA ha) <| .cons (Record.ofFile_of_find hfindB hb) <|
    .cons (Record.ofFile_of_find hfindC hc) .nil

def missingFiles : FileTree :=
  threeFiles "404: {layout: base, template: missing}\n" "\"404\": {template: form}\n"
    "404: {layout: wide}\n"

def missingBase : Record :=
  [(.int 404,
    .record [(.string "layout", .string "base"), (.string "template", .string "missing")])]

def missingForm : Record := [(.string "404", .record [(.string "template", .string "form")])]

def missingWide : Record := [(.int 404, .record [(.string "layout", .string "wide")])]

theorem holds_missingFiles :
    missingFiles.Holds ["a", "b", "c"] [missingBase, missingForm, missingWide] :=
  holds_threeFiles (by decide +kernel) (by decide +kernel) (by decide +kernel)

theorem ofRecords_missingFiles :
    ∀ layer ∈ [missingBase, missingForm, missingWide], layer.OfRecords := by
  simp [Record.OfRecords, missingBase, missingForm, missingWide]

theorem get?_loadTree_missingFiles :
    missingFiles.Holds ["a", "c"] [missingBase, missingWide] ∧
      (∀ layer ∈ [missingBase, missingWide], layer.OfRecords) ∧
      Record.SpelledAlike [missingBase, missingWide] "404" ∧
      ∃ tree, (loadTree missingFiles ["a", "c"]).1 = .ok tree ∧
        tree.get? "404" =
          some [(.string "layout", .string "wide"), (.string "template", .string "missing")] := by
  have hfiles : missingFiles.Holds ["a", "c"] [missingBase, missingWide] := by
    obtain _ | ⟨hbase, _ | ⟨-, hwide⟩⟩ := holds_missingFiles
    exact .cons hbase hwide
  have hsub : [missingBase, missingWide] ⊆ [missingBase, missingForm, missingWide] :=
    List.cons_subset_cons missingBase (List.subset_cons_self missingForm [missingWide])
  have hrecords : ∀ layer ∈ [missingBase, missingWide], layer.OfRecords :=
    fun layer hlayer => ofRecords_missingFiles layer (hsub hlayer)
  have halike : Record.SpelledAlike [missingBase, missingWide] "404" := by decide +kernel
  obtain ⟨tree, htree, -, hview⟩ := get?_loadTree hfiles hrecords
  refine ⟨hfiles, hrecords, halike, tree, htree, ?_⟩
  rw [hview "404" halike]
  decide +kernel

/-- The last file gives the view a layout, but its text first comes after the number. -/
theorem get?_ne_layered?_missingFiles :
    missingFiles.Holds ["a", "b", "c"] [missingBase, missingForm, missingWide] ∧
      (∀ layer ∈ [missingBase, missingForm, missingWide], layer.OfRecords) ∧
      ∃ tree, (loadTree missingFiles ["a", "b", "c"]).1 = .ok tree ∧
        tree.get? "404" = some [(.string "template", .string "form")] ∧
        Record.layered? ([missingBase, missingForm, missingWide].filterMap fun layer =>
            (ViewTree.ofEntries layer).get? "404") =
          some [(.string "layout", .string "wide"), (.string "template", .string "form")] ∧
        tree.get? "404" ≠
          Record.layered? ([missingBase, missingForm, missingWide].filterMap fun layer =>
            (ViewTree.ofEntries layer).get? "404") := by
  refine ⟨holds_missingFiles, ofRecords_missingFiles, _, holds_missingFiles.loadTree_eq, ?_⟩
  decide +kernel

end ViewLayers
