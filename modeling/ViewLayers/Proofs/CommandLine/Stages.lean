import Mathlib.Data.List.Forall2
import ViewLayers.CommandLine.Compile

/-!
# Stages of a command

A command finds its files, reads its constants and lays the files over each other, and every stage
needs the result of the one before. Here is what each of them gives, and when it fails. A stage
that goes through a list fails as soon as one element does, wherever it stands.
-/

namespace ViewLayers

variable {files : FileTree}

def Expands (files : FileTree) (argument : String) (paths : List String) : Prop :=
  ∃ notices, expandPath files argument = .ok (paths, notices)

section Expand

theorem fst_expandPaths_cons (files : FileTree) (argument : String) (rest : List String) :
    (expandPaths files (argument :: rest)).1 =
      (expandPath files argument).bind fun found =>
        (expandPaths files rest).1.map (found.1 ++ ·) := by
  rw [expandPaths]
  cases expandPath files argument with
  | error e => rfl
  | ok found => rfl

theorem fst_expandPaths_eq_ok_iff {arguments paths : List String} :
    (expandPaths files arguments).1 = .ok paths ↔
      ∃ found, List.Forall₂ (Expands files) arguments found ∧ paths = found.flatten := by
  induction arguments generalizing paths with
  | nil =>
    constructor
    · intro h
      cases h
      exact ⟨[], .nil, rfl⟩
    · rintro ⟨found, hfound, rfl⟩
      cases hfound
      rfl
  | cons argument rest ih =>
    rw [fst_expandPaths_cons]
    constructor
    · intro h
      cases hfirst : expandPath files argument with
      | error e => simp [hfirst, Except.bind] at h
      | ok first =>
        obtain ⟨found, notices⟩ := first
        cases hrest : (expandPaths files rest).1 with
        | error e => simp [hfirst, hrest, Except.bind, Except.map] at h
        | ok more =>
          obtain ⟨others, hothers, rfl⟩ := ih.1 hrest
          rw [hfirst, hrest] at h
          cases h
          exact ⟨found :: others, .cons ⟨notices, hfirst⟩ hothers, rfl⟩
    · rintro ⟨found, hfound, rfl⟩
      obtain _ | ⟨⟨notices, hfirst⟩, hothers⟩ := hfound
      rw [hfirst, Except.bind, ih.2 ⟨_, hothers, rfl⟩]
      rfl

theorem exists_fst_expandPaths_eq_error_iff {arguments : List String} :
    (∃ e, (expandPaths files arguments).1 = .error e) ↔
      ∃ argument ∈ arguments, ∃ e, expandPath files argument = .error e := by
  induction arguments with
  | nil => simp [expandPaths]
  | cons argument rest ih =>
    rw [fst_expandPaths_cons, List.exists_mem_cons_iff, ← ih]
    cases expandPath files argument with
    | error e => simp [Except.bind]
    | ok found =>
      cases (expandPaths files rest).1 <;> simp [Except.bind, Except.map]

theorem fst_expandPaths_eq_ok_nil_iff {arguments : List String} :
    (expandPaths files arguments).1 = .ok [] ↔
      ∀ argument ∈ arguments, Expands files argument [] := by
  induction arguments with
  | nil => simp [expandPaths]
  | cons argument rest ih =>
    rw [fst_expandPaths_cons, List.forall_mem_cons, ← ih, Expands]
    cases expandPath files argument with
    | error e => simp [Except.bind]
    | ok found =>
      obtain ⟨found, notices⟩ := found
      cases (expandPaths files rest).1 <;> simp [Except.bind, Except.map]

end Expand

section Read

variable {path : String}

/-- The file can be read, its text is a document, and the document is a record. An empty document
stands for an empty one. -/
def HoldsRecord (files : FileTree) (path : String) (entries : Record) : Prop :=
  ∃ text v, files.readText path = .ok text ∧ Yaml.read text = .ok v ∧
    (v = .null ∧ entries = [] ∨ v = .record entries)

theorem fst_recordOfFile_eq_ok_iff {entries : Record} :
    (Record.ofFile files path).1 = .ok entries ↔ HoldsRecord files path entries := by
  rw [Record.ofFile, HoldsRecord]
  cases files.readText path with
  | error f => simp
  | ok text =>
    simp only [Record.ofText, Except.ok.injEq, exists_and_left, exists_eq_left']
    cases Yaml.read text with
    | error f => simp
    | ok v => cases v <;> simp [eq_comm]

theorem exists_fst_recordOfFile_eq_error_iff :
    (∃ e, (Record.ofFile files path).1 = .error e) ↔
      ∀ entries, ¬ HoldsRecord files path entries := by
  simp only [← fst_recordOfFile_eq_ok_iff]
  cases (Record.ofFile files path).1 <;> simp

/-- The file can be read, its text is a document in the format of its name, and the document has
the entries of the table. -/
def HoldsTable (files : FileTree) (path : String) (table : Constants) : Prop :=
  ∃ text v entries, files.readText path = .ok text ∧
    (TableFormat.ofPath path).read text = .ok v ∧ v.entries? = some entries ∧
      table = Constants.ofEntries entries

theorem fst_constantsOfFile_eq_ok_iff {table : Constants} :
    (Constants.ofFile files path).1 = .ok table ↔ HoldsTable files path table := by
  rw [Constants.ofFile, HoldsTable]
  cases files.readText path with
  | error f => simp
  | ok text =>
    simp only [Except.ok.injEq, exists_and_left, exists_eq_left']
    cases (TableFormat.ofPath path).read text with
    | error reason => simp
    | ok v =>
      simp only [Except.ok.injEq, exists_eq_left', Constants.ofValue?]
      cases v.entries? <;> simp [eq_comm]

theorem exists_fst_constantsOfFile_eq_error_iff :
    (∃ e, (Constants.ofFile files path).1 = .error e) ↔ ∀ table, ¬ HoldsTable files path table := by
  simp only [← fst_constantsOfFile_eq_ok_iff]
  cases (Constants.ofFile files path).1 <;> simp

end Read

section Load

theorem fst_layFiles_cons (files : FileTree) (below : Record) (path : String)
    (rest : List String) :
    (layFiles files below (path :: rest)).1 =
      (Record.ofFile files path).1.bind fun layer =>
        (layFiles files (below.overlay layer) rest).1 := by
  rw [layFiles]
  cases Record.ofFile files path with
  | mk result notices =>
    cases result with
    | error e => rfl
    | ok layer => rfl

theorem exists_fst_layFiles_eq_error_iff {below : Record} {paths : List String} :
    (∃ e, (layFiles files below paths).1 = .error e) ↔
      ∃ path ∈ paths, ∃ e, (Record.ofFile files path).1 = .error e := by
  induction paths generalizing below with
  | nil => simp [layFiles]
  | cons path rest ih =>
    rw [fst_layFiles_cons, List.exists_mem_cons_iff]
    cases (Record.ofFile files path).1 with
    | error e => simp [Except.bind]
    | ok layer => simpa [Except.bind] using ih

theorem fst_layFiles_eq_ok_of_ofFile {files' : FileTree}
    (h : ∀ path layer, (Record.ofFile files path).1 = .ok layer →
      (Record.ofFile files' path).1 = .ok layer)
    {below entries : Record} {paths : List String}
    (hentries : (layFiles files below paths).1 = .ok entries) :
    (layFiles files' below paths).1 = .ok entries := by
  induction paths generalizing below with
  | nil => exact hentries
  | cons path rest ih =>
    rw [fst_layFiles_cons] at hentries ⊢
    cases hlayer : (Record.ofFile files path).1 with
    | error e => simp [hlayer, Except.bind] at hentries
    | ok layer =>
      rw [hlayer] at hentries
      rw [h path layer hlayer]
      exact ih hentries

theorem fst_compileFiles (files : FileTree) (paths : List String) (constants : Constants)
    (generatedAt : Moment) :
    (compileFiles files paths constants generatedAt).1 =
      (layFiles files [] paths).1.map fun entries =>
        compileTree constants.lookup generatedAt (ViewTree.ofEntries entries) := by
  rw [compileFiles, loadTree]
  cases layFiles files [] paths with
  | mk result notices =>
    cases result with
    | error e => rfl
    | ok entries => rfl

theorem exists_fst_compileFiles_eq_error_iff {paths : List String} {constants : Constants}
    {generatedAt : Moment} :
    (∃ e, (compileFiles files paths constants generatedAt).1 = .error e) ↔
      ∃ path ∈ paths, ∀ entries, ¬ HoldsRecord files path entries := by
  simp only [← exists_fst_recordOfFile_eq_error_iff]
  rw [fst_compileFiles, ← exists_fst_layFiles_eq_error_iff]
  cases (layFiles files [] paths).1 <;> simp [Except.map]

theorem fst_compileFiles? (files : FileTree) (paths : List String) (constants : Constants)
    (generatedAt : Moment) :
    (compileFiles? files paths constants generatedAt).1 =
      (compileFiles files paths constants generatedAt).1.map fun compiled =>
        if compiled.merged.isCompilable then some compiled else none := by
  rw [compileFiles?, compileFiles]
  cases loadTree files paths with
  | mk result notices =>
    cases result with
    | error e => rfl
    | ok raw =>
      simp only [Step.andThen, compileTree?, Except.map]
      cases (compileTree constants.lookup generatedAt raw).merged.isCompilable <;> rfl

theorem fst_compileFiles?_eq_ok_iff {paths : List String} {constants : Constants}
    {generatedAt : Moment} {counted : Option Compiled} :
    (compileFiles? files paths constants generatedAt).1 = .ok counted ↔
      ∃ compiled, (compileFiles files paths constants generatedAt).1 = .ok compiled ∧
        counted = if compiled.merged.isCompilable then some compiled else none := by
  rw [fst_compileFiles?]
  cases (compileFiles files paths constants generatedAt).1 with
  | error e => simp [Except.map]
  | ok compiled =>
    simp only [Except.map, Except.ok.injEq, exists_eq_left']
    exact eq_comm

theorem exists_fst_compileFiles?_eq_error_iff {paths : List String} {constants : Constants}
    {generatedAt : Moment} :
    (∃ e, (compileFiles? files paths constants generatedAt).1 = .error e) ↔
      ∃ path ∈ paths, ∀ entries, ¬ HoldsRecord files path entries := by
  rw [fst_compileFiles?, ← exists_fst_compileFiles_eq_error_iff]
  cases (compileFiles files paths constants generatedAt).1 <;> simp [Except.map]

end Load

section Constants

variable {o : MergeOptions}

def MergeOptions.Knows (o : MergeOptions) (files : FileTree) (constants : Constants) : Prop :=
  match o.constants with
  | none => constants = Constants.empty
  | some path => HoldsTable files path constants

theorem fst_loadConstants_eq_ok_iff {constants : Constants} :
    (o.loadConstants files).1 = .ok constants ↔ o.Knows files constants := by
  rw [MergeOptions.loadConstants, MergeOptions.Knows]
  cases o.constants with
  | none => simp [eq_comm]
  | some path => rw [Step.fst_mapError_eq_ok_iff, fst_constantsOfFile_eq_ok_iff]

theorem exists_fst_loadConstants_eq_error_iff :
    (∃ f, (o.loadConstants files).1 = .error f) ↔
      ∃ path, o.constants = some path ∧ ∀ table, ¬ HoldsTable files path table := by
  simp only [← exists_fst_constantsOfFile_eq_error_iff]
  rw [MergeOptions.loadConstants]
  cases o.constants with
  | none => simp
  | some path => simp

end Constants

section Choose

variable {arguments : List String}

theorem fst_chosenFiles_eq_ok_iff {paths : List String} :
    (chosenFiles files arguments).1 = .ok paths ↔
      paths ≠ [] ∧ ∃ found, List.Forall₂ (Expands files) arguments found ∧
        paths = found.flatten := by
  rw [chosenFiles, Step.fst_andThen_eq_ok_iff, ← fst_expandPaths_eq_ok_iff]
  simp only [Step.fst_mapError_eq_ok_iff]
  constructor
  · rintro ⟨expanded, hexpanded, hchosen⟩
    split at hchosen
    · cases hchosen
    · rename_i hne
      cases hchosen
      exact ⟨by simpa using hne, hexpanded⟩
  · rintro ⟨hne, hexpanded⟩
    refine ⟨paths, hexpanded, ?_⟩
    rw [if_neg (by simpa using hne)]
    rfl

theorem exists_fst_chosenFiles_eq_error_iff :
    (∃ f, (chosenFiles files arguments).1 = .error f) ↔
      (∃ argument ∈ arguments, ∃ e, expandPath files argument = .error e) ∨
        ∀ argument ∈ arguments, Expands files argument [] := by
  rw [← exists_fst_expandPaths_eq_error_iff, ← fst_expandPaths_eq_ok_nil_iff]
  simp only [chosenFiles, Step.fst_andThen_eq_error_iff, Step.fst_mapError_eq_error_iff,
    Step.fst_mapError_eq_ok_iff]
  cases (expandPaths files arguments).1 with
  | error e => simp
  | ok paths => cases paths <;> simp

end Choose

end ViewLayers
