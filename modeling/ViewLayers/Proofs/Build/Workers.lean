import Mathlib
import ViewLayers.CommandLine.Build
import ViewLayers.Proofs.CommandLine.Stages

/-!
# Building side by side

Every module has a worker, which reads the module's files one after another, compiles them and
writes the script. The turns of different workers come in any order. Building one module after
another is one such order, and every order comes to an end.
-/

namespace ViewLayers

inductive Work where
  | reading (below : Record) (paths : List String)
  | writing (text : String)
  | done (written : Except Failure String)

@[simp] def Work.left : Work → Nat
  | .reading _ paths => paths.length + 2
  | .writing _ => 1
  | .done _ => 0

structure Worker where
  built : ViewModule
  work : Work

def Worker.finished (r : BuildPlan.Result) : Worker := ⟨r.built, .done r.written⟩

structure Shop where
  files : FileTree
  workers : List Worker

def Shop.left (s : Shop) : Nat := (s.workers.map fun w => w.work.left).sum

namespace BuildPlan

variable (p : BuildPlan)

def sources (m : ViewModule) : List String := p.appConfig.toList ++ [m.path]

variable {p} in
theorem mem_sources_iff {m : ViewModule} {path : String} :
    path ∈ p.sources m ↔ p.appConfig = some path ∨ path = m.path := by
  rw [sources, List.mem_append, Option.mem_toList, List.mem_singleton]

def scriptOf (entries : Record) : String :=
  Script.render (compileTree p.constants.lookup p.generatedAt (.ofEntries entries)).procedure

def compiled (files : FileTree) (m : ViewModule) : Except Error Compiled :=
  (compileFiles files (p.sources m) p.constants p.generatedAt).1

def starting (m : ViewModule) : Worker := ⟨m, .reading [] (p.sources m)⟩

def opened (files : FileTree) (modules : List ViewModule) : Shop :=
  ⟨files, modules.map p.starting⟩

/-- One turn of a worker: one file is read or written, or the script is made. -/
def takeTurn (files : FileTree) (w : Worker) : FileTree × Worker :=
  match w.work with
  | .reading below (path :: rest) =>
    match (Record.ofFile files path).1 with
    | .error e => (files, ⟨w.built, .done (.error (.ofError e))⟩)
    | .ok layer => (files, ⟨w.built, .reading (below.overlay layer) rest⟩)
  | .reading below [] => (files, ⟨w.built, .writing (p.scriptOf below)⟩)
  | .writing text =>
    let path := w.built.outFile p.outDir
    match files.writeText path text with
    | .ok files => (files, ⟨w.built, .done (.ok path)⟩)
    | .error f => (files, ⟨w.built, .done (.error (.ofFile ("Failed to write " ++ path) f))⟩)
  | .done _ => (files, w)

/-- Some worker that is not done takes a turn. -/
inductive Turn : Shop → Shop → Prop
  | take {files : FileTree} {w : Worker} (before after : List Worker) (busy : 0 < w.work.left) :
    Turn ⟨files, before ++ w :: after⟩
      ⟨(p.takeTurn files w).1, before ++ (p.takeTurn files w).2 :: after⟩

abbrev Runs : Shop → Shop → Prop := Relation.ReflTransGen p.Turn

section Termination

theorem left_takeTurn (files : FileTree) {w : Worker} (busy : 0 < w.work.left) :
    (p.takeTurn files w).2.work.left < w.work.left := by
  obtain ⟨m, work⟩ := w
  cases work with
  | reading below paths =>
    cases paths with
    | nil => simp [takeTurn]
    | cons path rest =>
      simp only [takeTurn]
      split
      · simp
      · simp
  | writing text =>
    simp only [takeTurn]
    split
    · simp
    · simp
  | done written => exact absurd busy (lt_irrefl 0)

theorem Turn.left_lt {s s' : Shop} (h : p.Turn s s') : s'.left < s.left := by
  obtain @⟨files, w, before, after, busy⟩ := h
  have hturn := p.left_takeTurn files busy
  simp only [Shop.left, List.map_append, List.map_cons, List.sum_append, List.sum_cons]
  omega

theorem exists_turn_or_finished (s : Shop) :
    (∃ s', p.Turn s s') ∨ ∃ results : List Result, s.workers = results.map Worker.finished := by
  obtain ⟨files, workers⟩ := s
  by_cases hbusy : ∃ w ∈ workers, 0 < w.work.left
  · obtain ⟨w, hw, hbusy⟩ := hbusy
    obtain ⟨before, after, rfl⟩ := List.append_of_mem hw
    exact .inl ⟨_, .take before after hbusy⟩
  · right
    simp only [not_exists, not_and, not_lt, Nat.le_zero] at hbusy
    induction workers with
    | nil => exact ⟨[], rfl⟩
    | cons w rest ih =>
      obtain ⟨hfirst, hrest⟩ := List.forall_mem_cons.1 hbusy
      obtain ⟨results, hresults⟩ := ih hrest
      obtain ⟨m, work⟩ := w
      cases work with
      | done written => exact ⟨⟨m, written⟩ :: results, by simpa [Worker.finished] using hresults⟩
      | writing text => cases hfirst
      | reading below paths => cases hfirst

theorem exists_runs_finished (s : Shop) :
    ∃ s' results, p.Runs s s' ∧ s'.workers = List.map Worker.finished results := by
  induction hleft : s.left using Nat.strong_induction_on generalizing s with
  | _ n ih =>
    rcases p.exists_turn_or_finished s with ⟨s', hturn⟩ | ⟨results, hdone⟩
    · obtain ⟨s'', results, hruns, hdone⟩ := ih _ (hleft ▸ hturn.left_lt) s' rfl
      exact ⟨s'', results, .head hturn hruns, hdone⟩
    · exact ⟨s, results, .refl, hdone⟩

end Termination

theorem fst_script (files : FileTree) (m : ViewModule) :
    (p.script files m).1 =
      ((p.compiled files m).map fun c => Script.render c.procedure).mapError Failure.ofError := by
  rw [script, compiled, sources]
  cases compileFiles files (p.appConfig.toList ++ [m.path]) p.constants p.generatedAt with
  | mk result notices =>
    cases result with
    | error e => rfl
    | ok compiled => rfl

theorem fst_script_eq_of_layFiles (files : FileTree) (m : ViewModule) :
    (p.script files m).1 =
      ((layFiles files [] (p.sources m)).1.map p.scriptOf).mapError Failure.ofError := by
  rw [fst_script, compiled, fst_compileFiles]
  cases (layFiles files [] (p.sources m)).1 with
  | error e => rfl
  | ok entries => rfl

theorem fst_script_ne_ok_of_find {files : FileTree} {m : ViewModule} {path : String}
    {fault : FileFault} (hpath : path ∈ p.sources m) (hfind : files.find path = .error fault)
    (text : String) : (p.script files m).1 ≠ .ok text := by
  have hmissing : ∃ e, (Record.ofFile files path).1 = .error e := by
    rw [Record.ofFile, FileTree.readText, hfind]
    exact ⟨_, rfl⟩
  obtain ⟨e, he⟩ : ∃ e, (layFiles files [] (p.sources m)).1 = .error e :=
    exists_fst_layFiles_eq_error_iff.2 ⟨path, hpath, hmissing⟩
  rw [fst_script_eq_of_layFiles, he]
  intro h
  cases h

section Sequence

variable {p} {files : FileTree} {m : ViewModule} (before after : List Worker)

theorem runs_reading {below : Record} {paths : List String} :
    p.Runs ⟨files, before ++ ⟨m, .reading below paths⟩ :: after⟩
      ⟨files, before ++ ⟨m, match (layFiles files below paths).1 with
        | .ok entries => .writing (p.scriptOf entries)
        | .error e => .done (.error (.ofError e))⟩ :: after⟩ := by
  induction paths generalizing below with
  | nil => exact .single (.take before after (Nat.succ_pos _))
  | cons path rest ih =>
    have hfirst : p.Turn ⟨files, before ++ ⟨m, .reading below (path :: rest)⟩ :: after⟩ _ :=
      .take before after (Nat.succ_pos _)
    refine .head hfirst ?_
    rw [fst_layFiles_cons]
    simp only [takeTurn]
    cases (Record.ofFile files path).1 with
    | error e => exact .refl
    | ok layer => exact ih

theorem runs_buildModule (p : BuildPlan) (files : FileTree) (m : ViewModule) :
    p.Runs ⟨files, before ++ p.starting m :: after⟩
      ⟨(p.buildModule files m).1, before ++ .finished (p.buildModule files m).2.1 :: after⟩ := by
  have hread : p.Runs ⟨files, before ++ p.starting m :: after⟩ _ := runs_reading before after
  have hscript := p.fst_script_eq_of_layFiles files m
  cases hstep : p.script files m with
  | mk result notices =>
    rw [hstep] at hscript
    cases hlaid : (layFiles files [] (p.sources m)).1 with
    | error e =>
      rw [hlaid] at hread hscript
      obtain rfl : result = .error (.ofError e) := hscript
      rw [buildModule, hstep]
      exact hread
    | ok entries =>
      rw [hlaid] at hread hscript
      obtain rfl : result = .ok (p.scriptOf entries) := hscript
      refine hread.tail ?_
      have hwrite : p.Turn ⟨files, before ++ ⟨m, .writing (p.scriptOf entries)⟩ :: after⟩ _ :=
        .take before after Nat.one_pos
      rw [buildModule, hstep]
      simp only [takeTurn] at hwrite ⊢
      cases hwritten : files.writeText (m.outFile p.outDir) (p.scriptOf entries) with
      | error f =>
        rw [hwritten] at hwrite
        exact hwrite
      | ok files' =>
        rw [hwritten] at hwrite
        exact hwrite

/-- Building one module after another is one order of the turns. -/
theorem runs_buildAll (p : BuildPlan) (files : FileTree) (modules : List ViewModule) :
    p.Runs ⟨files, before ++ modules.map p.starting⟩
      ⟨(p.buildAll files modules).1,
        before ++ (p.buildAll files modules).2.1.map Worker.finished⟩ := by
  induction modules generalizing files before with
  | nil => exact .refl
  | cons m rest ih =>
    have hfirst := runs_buildModule before (rest.map p.starting) p files m
    have hrest := ih (before ++ [.finished (p.buildModule files m).2.1]) (p.buildModule files m).1
    simp only [List.append_assoc, List.singleton_append] at hrest
    exact hfirst.trans hrest

end Sequence

end BuildPlan

end ViewLayers
