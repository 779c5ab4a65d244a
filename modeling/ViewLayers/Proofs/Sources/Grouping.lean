import Mathlib
import ViewLayers.Proofs.Overlay.Associative
import ViewLayers.Proofs.Sources.Layering

/-!
# Neighbouring files put together

Of three files laid over each other, two neighbours can be put together into one file beforehand.
The view tree stays the same unless the three clash somewhere.
-/

namespace ViewLayers

/-- The two groupings agree down to the order of the keys at every depth, and so load alike. -/
theorem loadTree_grouped {lowest : KeyedRecord} {b c : Record}
    (h : ∀ path, ¬ Value.Clash (.record lowest.entries) (.record b) (.record c) path) :
    let a := lowest.entries
    Record.overlay (Record.overlay a b) c = Record.overlay a (Record.overlay b c) ∧
      ∀ (files grouped : FileTree) (paths groupedPaths : List String),
        files.Holds paths [a, b, c] →
        grouped.Holds groupedPaths [Record.overlay a b, c] ∨
          grouped.Holds groupedPaths [a, Record.overlay b c] →
        (loadTree grouped groupedPaths).1 = (loadTree files paths).1 := by
  intro a
  have hassoc : Record.overlay (Record.overlay a b) c = Record.overlay a (Record.overlay b c) :=
    lowest.overlay_overlay h
  refine ⟨hassoc, fun files grouped paths groupedPaths hfiles hgrouped => ?_⟩
  have hlay : ∃ layers, grouped.Holds groupedPaths layers ∧
      Record.layAll layers = Record.layAll [a, b, c] := by
    obtain hleft | hright := hgrouped
    · refine ⟨_, hleft, ?_⟩
      simp only [Record.layAll, List.foldl_cons, List.foldl_nil, Record.nil_overlay]
    · refine ⟨_, hright, ?_⟩
      simp only [Record.layAll, List.foldl_cons, List.foldl_nil, Record.nil_overlay, hassoc]
  obtain ⟨layers, hlayers, hsame⟩ := hlay
  rw [hlayers.loadTree_eq, hfiles.loadTree_eq, hsame]

def pageBase : Record :=
  [(.string "all", .record [(.string "layout", .string "base"), (.string "title", .null)]),
    (.string "home", .record [(.string "title", .string "Home")])]

def pageReset : Record :=
  [(.string "home", .null),
    (.string "all", .record [(.string "layout", .null), (.string "width", .int 1)])]

def pageWide : Record :=
  [(.string "all", .record [(.string "width", .int 2), (.string "layout", .string "wide")])]

theorem keyed_pageBase : pageBase.Keyed := by
  have hall : ∀ e ∈ pageBase, e.2.Keyed := by
    simp only [pageBase, List.forall_mem_cons]
    exact ⟨Value.keyed_of_flat (by decide +kernel) (by simp),
      Value.keyed_of_flat (by decide +kernel) (by simp), by simp⟩
  exact Value.keyed_record_iff.2 ⟨by decide +kernel, hall⟩

theorem not_clash_page (path : List Value) :
    ¬ Value.Clash (.record pageBase) (.record pageReset) (.record pageWide) path := by
  have hbase := (Value.keyed_record_iff.1 keyed_pageBase).1
  refine (Value.not_clash_record_iff hbase).2 ?_ path
  have hhome : Entries.get? pageWide (.string "home") = none := by decide +kernel
  have hreset : Entries.get? pageReset (.string "all") =
      some (.record [(.string "layout", .null), (.string "width", .int 1)]) := by decide +kernel
  have hwide : Entries.get? pageWide (.string "all") =
      some (.record [(.string "width", .int 2), (.string "layout", .string "wide")]) := by
    decide +kernel
  simp only [pageBase, List.forall_mem_cons, hhome, hreset, hwide, Option.some.injEq]
  refine ⟨?_, fun v w _ hw => (by cases hw), by simp⟩
  rintro v w rfl rfl
  refine (Value.not_clash_record_iff (by decide +kernel)).2 fun e he v w _ _ => ?_
  have hne : ∀ r, e.2 ≠ .record r := by
    simp only [List.mem_cons, List.not_mem_nil, or_false] at he
    obtain rfl | rfl := he <;> exact fun r => Value.noConfusion
  exact Value.not_clash_of_ne_record hne

def pageFiles : FileTree :=
  threeFiles "all: {layout: base, title: null}\nhome: {title: Home}\n"
    "home: null\nall: {layout: null, width: 1}\n" "all: {width: 2, layout: wide}\n"

def pageGroups : FileTree :=
  threeFiles "all: {layout: base, title: null}\nhome: {title: Home}\n"
    "home: null\nall: {layout: wide, width: 2}\n" "all: {width: 2, layout: wide}\n"

theorem loadTree_grouped_page :
    pageFiles.Holds ["a", "b", "c"] [pageBase, pageReset, pageWide] ∧
      pageGroups.Holds ["a", "b"] [pageBase, Record.overlay pageReset pageWide] ∧
      Record.overlay (Record.overlay pageBase pageReset) pageWide =
        Record.overlay pageBase (Record.overlay pageReset pageWide) ∧
      (loadTree pageGroups ["a", "b"]).1 = (loadTree pageFiles ["a", "b", "c"]).1 := by
  have hfiles : pageFiles.Holds ["a", "b", "c"] [pageBase, pageReset, pageWide] :=
    holds_threeFiles (by decide +kernel) (by decide +kernel) (by decide +kernel)
  have hgroups : pageGroups.Holds ["a", "b"] [pageBase, Record.overlay pageReset pageWide] := by
    have hall : pageGroups.Holds ["a", "b", "c"]
        [pageBase, Record.overlay pageReset pageWide, pageWide] :=
      holds_threeFiles (by decide +kernel) (by decide +kernel) (by decide +kernel)
    obtain _ | ⟨hbase, _ | ⟨hboth, -⟩⟩ := hall
    exact .cons hbase (.cons hboth .nil)
  obtain ⟨hassoc, hload⟩ :=
    @loadTree_grouped ⟨pageBase, keyed_pageBase⟩ pageReset pageWide not_clash_page
  exact ⟨hfiles, hgroups, hassoc, hload _ _ _ _ hfiles (.inr hgroups)⟩

end ViewLayers
