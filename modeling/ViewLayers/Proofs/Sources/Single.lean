import Mathlib
import ViewLayers.Proofs.Sources.Layering

/-!
# One file

A tree can be read from a text at once, or from a file as the only layer. The two agree on every
document without a tag, also on what is wrong with it. A tag on the whole document is looked
through in a text, but a file with one is refused.
-/

namespace ViewLayers

section Layer

variable {files : FileTree} {path text : String}

theorem Record.fst_ofFile_of_find (h : files.find path = .ok (.file text.toUTF8)) :
    (ofFile files path).1 = ofText path text := by
  rw [ofFile, FileTree.readText_of_find h]

theorem fst_loadTree_singleton (files : FileTree) (path : String) :
    (loadTree files [path]).1 = (Record.ofFile files path).1.map ViewTree.ofEntries := by
  rw [loadTree, layFiles]
  cases hfile : Record.ofFile files path with
  | mk result notices =>
    cases result with
    | error e => rfl
    | ok layer =>
      simp only [layFiles, Record.nil_overlay]
      rfl

end Layer

namespace ViewTree

variable {source text : String} {tag : String} {v : Value}

theorem fst_ofText_of_read (h : Yaml.read text = .ok v) :
    (ofText source text).1 = ofValue? source v := by
  rw [ofText, h]

theorem fst_ofText_eq_map (h : ∀ tag v, Yaml.read text ≠ .ok (.tagged tag v)) :
    (ofText source text).1 = (Record.ofText source text).map ofEntries := by
  rw [Record.ofText]
  cases hread : Yaml.read text with
  | error f =>
    rw [ofText, hread]
    rfl
  | ok v =>
    rw [fst_ofText_of_read hread]
    cases v with
    | tagged tag v => exact absurd hread (h tag v)
    | _ => rfl

theorem kindName_untagged_ne (v : Value) : v.untagged.kindName ≠ "Tagged" := by
  induction v using Value.untagged.induct with
  | case1 tag v ih => exact ih
  | case2 v h =>
    rw [Value.untagged.eq_2 v h]
    cases v with
    | tagged tag v => exact absurd rfl (h tag v)
    | _ => exact fun heq => absurd heq (by simp [Value.kindName])

theorem ofValue?_ne_notRecord (source tag : String) (v : Value) :
    ofValue? source (.tagged tag v) ≠ .error (notRecord source (.tagged tag v)) := by
  intro h
  rw [ofValue?] at h
  split at h
  · cases h
  · cases h
  · rw [Except.error.injEq, notRecord, notRecord, Error.malformed.injEq] at h
    have hkind := String.append_right_inj _ |>.1 h.2.1
    exact kindName_untagged_ne _ hkind

theorem exists_of_fst_ofText_eq_error {e : Error} (h : (ofText source text).1 = .error e) :
    ∃ reason hint, e = .malformed source reason hint := by
  rw [ofText] at h
  split at h
  · cases h
    exact ⟨_, _, rfl⟩
  · rw [ofValue?] at h
    split at h
    · cases h
    · cases h
    · cases h
      exact ⟨_, _, rfl⟩

end ViewTree

/-- A file and its text give the same tree or the same error exactly when the document has no
tag. A file whose document has one is refused. -/
theorem loadTree_singleton_eq_iff {files : FileTree} {path text : String}
    (hfile : files.find path = .ok (.file text.toUTF8)) :
    ((loadTree files [path]).1 = (ViewTree.ofText path text).1 ↔
        ∀ tag v, Yaml.read text ≠ .ok (.tagged tag v)) ∧
      (∀ e, (ViewTree.ofText path text).1 = .error e →
        ∃ reason hint, e = .malformed path reason hint) ∧
      ∀ tag v, Yaml.read text = .ok (.tagged tag v) →
        (loadTree files [path]).1 = .error (ViewTree.notRecord path (.tagged tag v)) := by
  have hload : (loadTree files [path]).1 =
      (Record.ofText path text).map ViewTree.ofEntries := by
    rw [fst_loadTree_singleton, Record.fst_ofFile_of_find hfile]
  have htagged : ∀ tag v, Yaml.read text = .ok (.tagged tag v) →
      (loadTree files [path]).1 = .error (ViewTree.notRecord path (.tagged tag v)) := by
    intro tag v hread
    rw [hload, Record.ofText, hread]
    rfl
  refine ⟨⟨fun heq tag v hread => ?_, fun huntagged => ?_⟩,
    fun e he => ViewTree.exists_of_fst_ofText_eq_error he, htagged⟩
  · rw [htagged tag v hread, ViewTree.fst_ofText_of_read hread] at heq
    exact ViewTree.ofValue?_ne_notRecord path tag v heq.symm
  · rw [hload, ViewTree.fst_ofText_eq_map huntagged]

def oneFile (text : String) : FileTree := ⟨[(["a"], .file text.toUTF8)]⟩

theorem find_oneFile (text : String) : (oneFile text).find "a" = .ok (.file text.toUTF8) := by
  cbv

def formText : String := "edit: {template: form}\n404: ~\n"

theorem read_formText :
    Yaml.read formText =
      .ok (.record [(.string "edit", .record [(.string "template", .string "form")]),
        (.int 404, .null)]) := by
  decide +kernel

theorem loadTree_formText :
    (oneFile formText).find "a" = .ok (.file formText.toUTF8) ∧
      (∀ tag v, Yaml.read formText ≠ .ok (.tagged tag v)) ∧
      (loadTree (oneFile formText) ["a"]).1 = (ViewTree.ofText "a" formText).1 ∧
      (ViewTree.ofText "a" formText).1 =
        .ok ⟨[("edit", [(.string "template", .string "form")]), ("404", [])]⟩ := by
  have hfile := find_oneFile formText
  have huntagged : ∀ tag v, Yaml.read formText ≠ .ok (.tagged tag v) := by
    intro tag v h
    rw [read_formText] at h
    cases h
  refine ⟨hfile, huntagged, (loadTree_singleton_eq_iff hfile).1.2 huntagged, ?_⟩
  rw [ViewTree.fst_ofText_of_read read_formText]
  decide +kernel

def taggedText : String := "!site {edit: {template: form}}\n"

/-- The text has a view, and the file with this text is refused. -/
theorem loadTree_ne_ofText_taggedText :
    (oneFile taggedText).find "a" = .ok (.file taggedText.toUTF8) ∧
      (loadTree (oneFile taggedText) ["a"]).1 =
        .error (.malformed "a" "expected a mapping of view names, found Tagged"
          (some "Top-level keys must be view names such as 'all'")) ∧
      (ViewTree.ofText "a" taggedText).1 =
        .ok ⟨[("edit", [(.string "template", .string "form")])]⟩ ∧
      (loadTree (oneFile taggedText) ["a"]).1 ≠ (ViewTree.ofText "a" taggedText).1 := by
  have hread : Yaml.read taggedText =
      .ok (.tagged "site" (.record [(.string "edit",
        .record [(.string "template", .string "form")])])) := by
    decide +kernel
  have hfile := find_oneFile taggedText
  have hload : (loadTree (oneFile taggedText) ["a"]).1 =
      .error (.malformed "a" "expected a mapping of view names, found Tagged"
        (some "Top-level keys must be view names such as 'all'")) := by
    rw [fst_loadTree_singleton, Record.fst_ofFile_of_find hfile, Record.ofText, hread]
    decide +kernel
  have htext : (ViewTree.ofText "a" taggedText).1 =
      .ok ⟨[("edit", [(.string "template", .string "form")])]⟩ := by
    rw [ViewTree.fst_ofText_of_read hread]
    decide +kernel
  refine ⟨hfile, hload, htext, ?_⟩
  rw [hload, htext]
  exact fun h => nomatch h

end ViewLayers
