import Mathlib.Data.List.Forall2
import ViewLayers.Facets
import ViewLayers.Proofs.Additive.Combined
import ViewLayers.Proofs.Layers.Substitution

/-!
# Records in three layers

Component slots, HTTP metas and metas are records of entries, and every entry gives one statement.
Where all layers have records, an entry stands where its key first comes up from below and says
what the highest layer with the key has there. A record inside an entry is laid over another one
on the way, but no statement reads anything from a record.
-/

namespace ViewLayers

theorem Entries.Distinct.forall₂_keys {κ β : Type} [BEq κ] [EquivBEq κ] {es : Entries κ β}
    (h : Distinct es) : List.Forall₂ (fun k e => e.1 = k ∧ get? es k = some e.2) (keys es) es := by
  rw [keys, List.forall₂_map_left_iff, List.forall₂_same]
  intro e he
  exact ⟨rfl, h.get?_eq_some_of_mem he⟩

/-- A facet of a view that has one statement for every entry of a record. -/
inductive EntryFacet where
  | slots
  | httpMetas
  | metas
  deriving DecidableEq

def Statement.entryFacet? : Statement → Option EntryFacet
  | .setComponentSlot .. => some .slots
  | .addHttpMeta .. => some .httpMetas
  | .addMeta .. => some .metas
  | _ => none

namespace EntryFacet

def setting : EntryFacet → String
  | .slots => "components"
  | .httpMetas => "http_metas"
  | .metas => "metas"

def statement (facet : EntryFacet) (name : String) (content : Value) : Statement :=
  match facet with
  | .slots =>
    let parts := ViewTree.componentParts content
    .setComponentSlot name (parts.bind fun p => p.1.scalarText?)
      (parts.bind fun p => p.2.scalarText?)
  | .httpMetas => .addHttpMeta name content.scalarText
  | .metas => .addMeta name (Text.metaContent content.scalarText)

theorem setting_not_mem_assetSettings (facet : EntryFacet) : facet.setting ∉ assetSettings := by
  cases facet <;> decide

@[simp] theorem entryFacet?_statement (facet : EntryFacet) (name : String) (content : Value) :
    (facet.statement name content).entryFacet? = some facet := by
  cases facet <;> rfl

theorem statement_record (facet : EntryFacet) (name : String) (r s : Record) :
    facet.statement name (.record r) = facet.statement name (.record s) := by
  cases facet <;> rfl

theorem statement_overlaid (facet : EntryFacet) (lookup : String → Option String) (name : String)
    (below above : Value) :
    facet.statement name ((below.overlaid above).substitute lookup) =
      facet.statement name (above.substitute lookup) := by
  rcases below.overlaid_eq_or_records above with h | ⟨base, entries, rfl, rfl⟩
  · rw [h]
  · rw [Value.overlaid_records]
    exact facet.statement_record name _ _

theorem exists_of_laidOver (lookup : String → Option String) {below above : Option Value}
    {laid : Value} (h : Value.laidOver below above = some laid) :
    ∃ top, above.or below = some top ∧ ∀ (facet : EntryFacet) (name : String),
      facet.statement name (laid.substitute lookup) =
        facet.statement name (top.substitute lookup) := by
  cases above with
  | none =>
    have hbelow : below = some laid := by cases below <;> exact h
    exact ⟨laid, hbelow, fun _ _ => rfl⟩
  | some v =>
    refine ⟨v, rfl, fun facet name => ?_⟩
    cases below with
    | none =>
      have hv : v = laid := Option.some.inj h
      rw [hv]
    | some w =>
      have hlaid : w.overlaid v = laid := Option.some.inj h
      rw [← hlaid, facet.statement_overlaid]

end EntryFacet

namespace ViewTree

section Given

variable (t : ViewTree) (view : String)

def entryStatements (facet : EntryFacet) : List Statement :=
  (t.combined facet.setting view).entries.map fun e => facet.statement e.1.keyText e.2

theorem slotStatements_eq : t.slotStatements view = t.entryStatements view .slots := by
  refine List.map_congr_left fun e _ => ?_
  simp only [slotStatement, EntryFacet.statement]
  cases componentParts e.2 <;> rfl

theorem filter_entryStatements (facet other : EntryFacet) :
    (t.entryStatements view other).filter (fun s => s.entryFacet? = some facet) =
      if other = facet then t.entryStatements view other else [] := by
  simp only [entryStatements, List.filter_map, Function.comp_def,
    EntryFacet.entryFacet?_statement, Option.some.injEq]
  by_cases h : other = facet
  · simp [h]
  · simp [h]

theorem filter_setupStatements (facet : EntryFacet) :
    (t.setupStatements view).filter (fun s => s.entryFacet? = some facet) =
      t.entryStatements view facet := by
  have hlayout : (t.layoutStatements view).filter (fun s => s.entryFacet? = some facet) = [] := by
    simp [layoutStatements, Statement.entryFacet?]
  have hescaping :
      (t.escapingStatements view).filter (fun s => s.entryFacet? = some facet) = [] := by
    rw [escapingStatements]
    cases t.escapingMethod? view <;> simp [Statement.entryFacet?]
  have hassets : (t.assetStatements view).filter (fun s => s.entryFacet? = some facet) = [] := by
    simp [assetStatements, Statement.entryFacet?]
  have hhead : t.headStatements view =
      t.entryStatements view .httpMetas ++ t.entryStatements view .metas := rfl
  rw [setupStatements, slotStatements_eq, hhead]
  simp only [List.filter_append, hlayout, hescaping, hassets, filter_entryStatements]
  cases facet <;> simp

end Given

end ViewTree

/-- A value with the entries of a record. For a record without entries an empty list will do. -/
def Value.Holds (v : Value) (r : Record) : Prop := v = .list [] ∧ r = [] ∨ v = .record r

namespace Value.Holds

variable {v : Value} {r : Record}

theorem entries_eq (h : v.Holds r) : v.entries = r := by
  rcases h with ⟨rfl, rfl⟩ | rfl
  · rfl
  · rfl

theorem entries_append_record (h : v.Holds r) (more : Record) :
    (v.append (.record more)).entries = Record.putAll r more := by
  rcases h with ⟨rfl, rfl⟩ | rfl
  · rfl
  · rfl

end Value.Holds

structure LayeredRecord where
  below : Record
  common : Record
  own : Record

namespace LayeredRecord

/-- Every key once: those from below, then those new in `all`, then those new in the view. -/
def keys (r : LayeredRecord) : List Value :=
  Entries.keys r.below
    ++ (Entries.keys r.common).filter (fun k => !Entries.has r.below k)
    ++ (Entries.keys r.own).filter fun k => !Entries.has r.below k && !Entries.has r.common k

def highest? (r : LayeredRecord) (k : Value) : Option Value :=
  (Entries.get? r.own k).or ((Entries.get? r.common k).or (Entries.get? r.below k))

structure Distinct (r : LayeredRecord) : Prop where
  below : Entries.Distinct r.below
  common : Entries.Distinct r.common
  own : Entries.Distinct r.own

def merged (lookup : String → Option String) (r : LayeredRecord) : Record :=
  Record.putAll (Record.substitute lookup (Record.overlay r.below r.common))
    (Record.substitute lookup r.own)

variable {r : LayeredRecord} (lookup : String → Option String)

theorem keys_eq (r : LayeredRecord) :
    r.keys = Entries.keys (Record.overlay r.below r.common) ++
      (Entries.keys r.own).filter fun k => !Entries.has (Record.overlay r.below r.common) k := by
  simp only [Record.keys_overlay, Record.has_overlay, Bool.not_or, keys]

theorem Distinct.pairwise_keys (h : r.Distinct) :
    r.keys.Pairwise fun k l => (k == l) = false := by
  rw [keys_eq]
  exact Entries.pairwise_keys_append_new (Record.distinct_overlay h.below h.common) h.own

section Merged

variable (h : r.Distinct)
include h

theorem Distinct.keys_merged : Entries.keys (r.merged lookup) = r.keys := by
  rw [merged, Record.keys_putAll _ (Record.distinct_substitute lookup h.own), Record.keys_news,
    Record.keys_substitute, Record.keys_substitute, keys_eq]
  simp only [Record.has_substitute]

theorem Distinct.distinct_merged : Entries.Distinct (r.merged lookup) := by
  have hbase := Record.distinct_overlay h.below h.common
  exact Record.distinct_putAll (Record.distinct_substitute lookup hbase) _

theorem Distinct.exists_highest {k v : Value}
    (hv : Entries.get? (r.merged lookup) k = some v) :
    ∃ top, r.highest? k = some top ∧ ∀ (facet : EntryFacet) (name : String),
      facet.statement name v = facet.statement name (top.substitute lookup) := by
  have hown := Record.distinct_substitute lookup h.own
  rw [merged, Record.get?_putAll _ hown, Record.get?_substitute, Record.get?_substitute,
    Record.get?_overlay] at hv
  rw [highest?]
  cases hown : Entries.get? r.own k with
  | some top =>
    rw [hown, Option.map_some, Option.some_or, Option.some.injEq] at hv
    exact ⟨top, rfl, fun facet name => by rw [hv]⟩
  | none =>
    rw [hown, Option.map_none, Option.none_or, Option.map_eq_some_iff] at hv
    obtain ⟨laid, hlaid, rfl⟩ := hv
    rw [Option.none_or]
    exact EntryFacet.exists_of_laidOver lookup hlaid

end Merged

end LayeredRecord

namespace ViewTree

def layerRecord (t : ViewTree) (layer setting : String) : Record :=
  match t.layerSetting? layer setting with
  | some (.record entries) => entries
  | _ => []

def layersOf (view : String) : List String :=
  [defaultLayer, commonLayer] ++ if view = "" then [] else [view]

def layeredRecord (t : ViewTree) (setting view : String) : LayeredRecord where
  below := t.layerRecord defaultLayer setting
  common := t.layerRecord commonLayer setting
  own := if view = "" then [] else t.layerRecord view setting

/-- The setting is absent from a layer or a record whose keys differ. -/
def RecordAt (t : ViewTree) (setting layer : String) : Prop :=
  ∀ v, t.layerSetting? layer setting = some v →
    ∃ entries, v = .record entries ∧ Entries.Distinct entries

section Merged

variable {t : ViewTree} {setting : String}

theorem RecordAt.layerSetting?_cases {layer : String} (h : t.RecordAt setting layer) :
    (t.layerSetting? layer setting = none ∧ t.layerRecord layer setting = []) ∨
      t.layerSetting? layer setting = some (.record (t.layerRecord layer setting)) := by
  cases hv : t.layerSetting? layer setting with
  | none => exact .inl ⟨rfl, by rw [layerRecord, hv]⟩
  | some v =>
    obtain ⟨entries, rfl, -⟩ := h v hv
    exact .inr (by rw [layerRecord, hv])

theorem RecordAt.distinct {layer : String} (h : t.RecordAt setting layer) :
    Entries.Distinct (t.layerRecord layer setting) := by
  rcases h.layerSetting?_cases with ⟨-, hnone⟩ | hsome
  · rw [hnone]
    exact List.Pairwise.nil
  · obtain ⟨entries, heq, hd⟩ := h _ hsome
    rw [Value.record.injEq] at heq
    rwa [heq]

theorem distinct_layeredRecord {view : String}
    (hlayers : ∀ layer ∈ layersOf view, t.RecordAt setting layer) :
    (t.layeredRecord setting view).Distinct where
  below := (hlayers defaultLayer (by simp [layersOf])).distinct
  common := (hlayers commonLayer (by simp [layersOf])).distinct
  own := by
    rw [layeredRecord]
    split
    · exact List.Pairwise.nil
    · rename_i he
      exact (hlayers view (by simp [layersOf, he])).distinct

variable (lookup : String → Option String) (hs : setting ∉ assetSettings)
include hs

theorem holds_commonPart_mergeLayers (hd : t.RecordAt setting defaultLayer)
    (hc : t.RecordAt setting commonLayer) :
    ((t.mergeLayers lookup).commonPart setting).Holds
      (Record.substitute lookup
        (Record.overlay (t.layerRecord defaultLayer setting)
          (t.layerRecord commonLayer setting))) := by
  have hlayer := layerSetting?_mergeLayers_common lookup t hs
  have hrecord : ∀ entries : Record,
      (t.mergeLayers lookup).layerSetting? commonLayer setting = some (.record entries) →
      ((t.mergeLayers lookup).commonPart setting).Holds entries := by
    intro entries h
    exact .inr (commonPart_of_isCollection _ setting h rfl)
  rcases hd.layerSetting?_cases with ⟨hbelow, hbelow'⟩ | hbelow
  · rw [hbelow', Record.nil_overlay]
    rcases hc.layerSetting?_cases with ⟨hcommon, hcommon'⟩ | hcommon
    · rw [hbelow, hcommon] at hlayer
      have hnone : (t.mergeLayers lookup).layerSetting? commonLayer setting = none := hlayer
      refine .inl ⟨?_, by rw [hcommon', Record.substitute]⟩
      simp only [commonPart, ownSetting?, hnone, Option.filter]
    · rw [hbelow, hcommon] at hlayer
      exact hrecord _ hlayer
  · rcases hc.layerSetting?_cases with ⟨hcommon, hcommon'⟩ | hcommon
    · rw [hbelow, hcommon] at hlayer
      rw [hcommon', Record.overlay_nil]
      exact hrecord _ hlayer
    · rw [hbelow, hcommon, Value.laidOver, Value.overlaid_records] at hlayer
      exact hrecord _ hlayer

theorem entries_combined_mergeLayers {view : String} (hv : isReserved view = false)
    (hlayers : ∀ layer ∈ layersOf view, t.RecordAt setting layer) :
    ((t.mergeLayers lookup).combined setting view).entries =
      (t.layeredRecord setting view).merged lookup := by
  have hcommon := holds_commonPart_mergeLayers lookup hs
    (hlayers defaultLayer (by simp [layersOf])) (hlayers commonLayer (by simp [layersOf]))
  have hc : view ≠ commonLayer := (isReserved_eq_false.1 hv).2
  by_cases he : view = ""
  · have hown : (t.layeredRecord setting view).own = [] := if_pos he
    rw [combined, if_pos (.inl he), LayeredRecord.merged, hown]
    exact hcommon.entries_eq
  · have hown : (t.layeredRecord setting view).own = t.layerRecord view setting := if_neg he
    have hlayer := layerSetting?_mergeLayers_view lookup t hv setting
    rw [LayeredRecord.merged, hown]
    rcases (hlayers view (by simp [layersOf, he])).layerSetting?_cases with ⟨hnone, hnil⟩ | hsome
    · rw [hnone, Option.map_none] at hlayer
      have hcombined : (t.mergeLayers lookup).combined setting view =
          (t.mergeLayers lookup).commonPart setting := by
        simp only [combined, ownSetting?, hlayer, Option.filter, ite_self]
      rw [hcombined, hnil]
      exact hcommon.entries_eq
    · rw [hsome, Option.map_some] at hlayer
      rw [combined_eq_append he hc hlayer rfl]
      exact hcommon.entries_append_record _

end Merged

theorem recordAt_of_eq {t : ViewTree} {setting layer : String} {entries : Record}
    (h : t.layerSetting? layer setting = some (.record entries))
    (hd : Entries.Distinct entries) : t.RecordAt setting layer := by
  intro v hv
  rw [h, Option.some.injEq] at hv
  exact ⟨entries, hv.symm, hd⟩

def siteMetas : Record :=
  [(.string "title", .string "%SITE%"), (.string "robots", .record [(.int 1, .null)]),
    (.int 7, .string "a")]

def commonMetas : Record :=
  [(.string "robots", .record [(.int 2, .string "b")]), (.string "title", .string "<%SITE%>")]

def editMetas : Record :=
  [(.string "author", .tagged "t" (.string "Tom & Jerry")), (.int 7, .null)]

def metaLayers : ViewTree :=
  ⟨[("edit", [(.string "metas", .record editMetas)]),
    ("all", [(.string "metas", .record commonMetas)]),
    ("default", [(.string "metas", .record siteMetas)])]⟩

def siteConstant (name : String) : Option String := if name = "site" then some "A&B" else none

end ViewTree

end ViewLayers
