import Mathlib
import ViewLayers.Proofs.CommandLine.Stages
import ViewLayers.Proofs.Overlay.Absorption
import ViewLayers.Proofs.Sources.Layering

/-!
# Files that are listed twice

A file that follows itself in a list of files lays the same record over what it has just been laid
over. Nothing changes, whatever comes before and after, and whether the file can be read or not.
-/

namespace ViewLayers

variable {files : FileTree}

theorem fst_loadTree (files : FileTree) (paths : List String) :
    (loadTree files paths).1 = (layFiles files [] paths).1.map ViewTree.ofEntries := by
  rw [loadTree]
  cases layFiles files [] paths with
  | mk result notices =>
    cases result with
    | error e => rfl
    | ok entries => rfl

theorem fst_layFiles_repeated (below : KeyedRecord) (before after : List String) (path : String) :
    (layFiles files below.entries (before ++ path :: path :: after)).1 =
      (layFiles files below.entries (before ++ path :: after)).1 := by
  induction before generalizing below with
  | nil =>
    rw [List.nil_append, List.nil_append, fst_layFiles_cons, fst_layFiles_cons]
    cases hlayer : (Record.ofFile files path).1 with
    | error e => rfl
    | ok layer =>
      have hhigh := below.overlay_overlay_self_high ⟨layer, Record.keyed_of_ofFile hlayer⟩
      rw [Except.bind, Except.bind, fst_layFiles_cons, hlayer, Except.bind, hhigh]
  | cons first rest ih =>
    rw [List.cons_append, List.cons_append, fst_layFiles_cons, fst_layFiles_cons]
    cases hlayer : (Record.ofFile files first).1 with
    | error e => rfl
    | ok layer => exact ih (below.overlay ⟨layer, Record.keyed_of_ofFile hlayer⟩)

/-- A layer that comes again directly above or below itself adds nothing, down to the order of the
keys at every depth, and so a file that is listed again changes nothing. -/
theorem loadTree_repeated (below above : KeyedRecord) :
    let a := below.entries
    let b := above.entries
    Record.overlay a a = a ∧
      Record.overlay (Record.overlay a b) b = Record.overlay a b ∧
      Record.overlay a (Record.overlay a b) = Record.overlay a b ∧
      Record.overlay [] a = a ∧ Record.overlay a [] = a ∧
      ∀ (files : FileTree) (before after : List String) (path : String),
        (loadTree files (before ++ path :: path :: after)).1 =
          (loadTree files (before ++ path :: after)).1 := by
  intro a b
  refine ⟨below.overlay_self, below.overlay_overlay_self_high above,
    below.overlay_overlay_self_low above, Record.nil_overlay a, Record.overlay_nil a, ?_⟩
  intro files before after path
  have hempty : Record.Keyed [] := Value.keyed_of_flat List.Pairwise.nil nofun
  have hsame := @fst_layFiles_repeated files ⟨[], hempty⟩ before after path
  rw [fst_loadTree, fst_loadTree, hsame]

def robotsIndex : Record := [(.string "index", .bool true)]

def metasSite : Record :=
  [(.string "title", .string "Site"), (.string "robots", .record robotsIndex)]

def authorName : Record := [(.string "name", .string "Lee")]

def metasAuthor : Record := [(.string "robots", .null), (.string "author", .record authorName)]

def siteBase : Record :=
  [(.string "metas", .record metasSite), (.string "layout", .record authorName),
    (.float .zero, .null)]

def siteOver : Record :=
  [(.string "layout", .null), (.float (.ofMagnitude true 0), .record robotsIndex),
    (.string "metas", .record metasAuthor)]

def siteBoth : Record :=
  [(.string "metas", .record [(.string "title", .string "Site"), (.string "robots", .null),
      (.string "author", .record authorName)]),
    (.string "layout", .null), (.float .zero, .record robotsIndex)]

def siteLast : Record := [(.string "all", .record authorName)]

def siteFiles : FileTree :=
  threeFiles "metas: {title: Site, robots: {index: true}}\nlayout: {name: Lee}\n0.0: ~\n"
    "layout: ~\n-0.0: {index: true}\nmetas: {robots: ~, author: {name: Lee}}\n"
    "all: {name: Lee}\n"

theorem holds_siteFiles : siteFiles.Holds ["a", "b", "c"] [siteBase, siteOver, siteLast] :=
  holds_threeFiles (by decide +kernel) (by decide +kernel) (by decide +kernel)

theorem loadTree_repeated_site :
    siteBase.Keyed ∧ siteOver.Keyed ∧ Record.overlay siteBase siteOver = siteBoth ∧
      Record.overlay siteBase siteBase = siteBase ∧ Record.overlay siteBoth siteOver = siteBoth ∧
      Record.overlay siteBase siteBoth = siteBoth ∧
      (loadTree siteFiles ["a", "b", "b", "c"]).1 = .ok (.ofEntries (siteBoth ++ siteLast)) := by
  have hrobots : (Value.record robotsIndex).Keyed :=
    Value.keyed_of_flat (by decide +kernel) (by simp [robotsIndex])
  have hauthor : (Value.record authorName).Keyed :=
    Value.keyed_of_flat (by decide +kernel) (by simp [authorName])
  have hmetas : (Value.record metasSite).Keyed :=
    Value.keyed_record_iff.2
      ⟨by decide +kernel, by simp [metasSite, hrobots]⟩
  have hmetasOver : (Value.record metasAuthor).Keyed :=
    Value.keyed_record_iff.2
      ⟨by decide +kernel, by simp [metasAuthor, hauthor]⟩
  have hbase : siteBase.Keyed :=
    Value.keyed_record_iff.2
      ⟨by decide +kernel, by simp [siteBase, hmetas, hauthor]⟩
  have hover : siteOver.Keyed :=
    Value.keyed_record_iff.2
      ⟨by decide +kernel, by simp [siteOver, hmetasOver, hrobots]⟩
  have hboth : Record.overlay siteBase siteOver = siteBoth := by decide +kernel
  obtain ⟨hself, hhigh, hlow, -, -, hload⟩ := loadTree_repeated ⟨siteBase, hbase⟩ ⟨siteOver, hover⟩
  rw [hboth] at hhigh hlow
  have honce : Record.layAll [siteBase, siteOver, siteLast] = siteBoth ++ siteLast := by
    decide +kernel
  have htwice := hload siteFiles ["a"] ["c"] "b"
  rw [List.singleton_append, List.singleton_append, holds_siteFiles.loadTree_eq, honce] at htwice
  exact ⟨hbase, hover, hboth, hself, hhigh, hlow, htwice⟩

end ViewLayers
