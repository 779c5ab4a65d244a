import Mathlib
import ViewLayers.Proofs.Build.Workers
import ViewLayers.Proofs.Files.Writes

/-!
# Modules do not disturb each other

A worker writes one file, which no worker reads and no other worker writes. So whatever turns have
been taken, every file that is read is as it was, and every order of the turns ends with the same
results and the same files.
-/

namespace ViewLayers.BuildPlan

/-- The modules can be built side by side on these files. -/
structure Fit (p : BuildPlan) (ready : FileTree) (modules : List ViewModule) : Prop where
  names_ne : modules.Pairwise fun m n => m.name ≠ n.name
  isName : ∀ m ∈ modules, FileTree.IsName (m.name ++ ".js")
  found : ∀ m ∈ modules, ∃ node, ready.find m.path = .ok node
  writable : ∀ m ∈ modules, ∀ text, (p.script ready m).1 = .ok text →
    ∃ q, FileTree.Writable ready (m.outFile p.outDir) q
  apart : ∀ m ∈ modules, ∀ n ∈ modules, ∀ path ∈ p.sources n, ∀ node,
    ready.find path = .ok node → ready.place (m.outFile p.outDir) ≠ ready.place path

def resultOf (p : BuildPlan) (ready : FileTree) (m : ViewModule) : Result :=
  ⟨m, (p.script ready m).1.map fun _ => m.outFile p.outDir⟩

/-- A worker is as far as it could be on the files as they were at first. -/
def Reached (p : BuildPlan) (ready : FileTree) (w : Worker) : Prop :=
  match w.work with
  | .reading below paths =>
    paths ⊆ p.sources w.built ∧
      (layFiles ready [] (p.sources w.built)).1 = (layFiles ready below paths).1
  | .writing text => (p.script ready w.built).1 = .ok text
  | .done written => written = (p.resultOf ready w.built).written

structure Wrote (p : BuildPlan) (ready : FileTree) (w : Worker) (q : Place) (text : String) :
    Prop where
  done : ∃ path, w.work = .done (.ok path)
  script_eq : (p.script ready w.built).1 = .ok text
  place_eq : ready.place (w.built.outFile p.outDir) = .ok q

/-- All that has changed is that the workers which are done have written their scripts. -/
structure Sound (p : BuildPlan) (ready : FileTree) (modules : List ViewModule) (s : Shop) :
    Prop where
  built : s.workers.map Worker.built = modules
  reached : ∀ w ∈ s.workers, p.Reached ready w
  written : ∀ w ∈ s.workers, ∀ q text, p.Wrote ready w q text →
    s.files.node? q = some (.file text.toUTF8)
  others : ∀ q, (∀ w ∈ s.workers, ∀ text, ¬ p.Wrote ready w q text) →
    s.files.node? q = ready.node? q

variable {p : BuildPlan} {ready : FileTree} {modules : List ViewModule} {s s' : Shop}

theorem sound_opened (p : BuildPlan) (ready : FileTree) (modules : List ViewModule) :
    p.Sound ready modules (p.opened ready modules) where
  built := by
    rw [opened, List.map_map]
    exact List.map_id _
  reached := by
    intro w hw
    obtain ⟨m, -, rfl⟩ := List.mem_map.1 hw
    exact ⟨List.Subset.refl _, rfl⟩
  written := by
    intro w hw q text hwrote
    obtain ⟨m, -, rfl⟩ := List.mem_map.1 hw
    obtain ⟨path, hdone⟩ := hwrote.done
    cases hdone
  others := fun _ _ => rfl

theorem forall_mem_middle {α : Type} {P : α → Prop} {a : α} {before after : List α} :
    (∀ x ∈ before ++ a :: after, P x) ↔ P a ∧ ∀ x ∈ before ++ after, P x := by
  simp only [List.perm_middle.mem_iff, List.forall_mem_cons]

section Places

variable {w x : Worker} {q : Place} {text text' : String}

theorem Fit.writable_of_wrote (hfit : p.Fit ready modules) (hw : w.built ∈ modules)
    (hwrote : p.Wrote ready w q text) :
    FileTree.Writable ready (w.built.outFile p.outDir) q := by
  obtain ⟨q', hwritable⟩ := hfit.writable _ hw text hwrote.script_eq
  rw [Except.ok.inj (hwrote.place_eq.symm.trans hwritable.place_eq)]
  exact hwritable

theorem Fit.name_eq_of_place (hfit : p.Fit ready modules) {m n : ViewModule} (hm : m ∈ modules)
    (hn : n ∈ modules) (hmq : ready.place (m.outFile p.outDir) = .ok q)
    (hnq : ready.place (n.outFile p.outDir) = .ok q) : m.name = n.name := by
  have hmlast := FileTree.getLast?_of_place_join (hfit.isName m hm) hmq
  have hnlast := FileTree.getLast?_of_place_join (hfit.isName n hn) hnq
  rw [hmlast] at hnlast
  simpa using hnlast

end Places

namespace Sound

variable {w w' : Worker} {before after : List Worker} {files : FileTree} {q : Place}
  {text : String}

theorem built_mem (h : p.Sound ready modules s) (hw : w ∈ s.workers) : w.built ∈ modules := by
  rw [← h.built]
  exact List.mem_map_of_mem hw

theorem node?_cases (h : p.Sound ready modules s) (q : Place) :
    s.files.node? q = ready.node? q ∨ ∃ w ∈ s.workers, ∃ text,
      p.Wrote ready w q text ∧ s.files.node? q = some (.file text.toUTF8) := by
  by_cases hwrote : ∃ w ∈ s.workers, ∃ text, p.Wrote ready w q text
  · obtain ⟨w, hw, text, hwrote⟩ := hwrote
    exact .inr ⟨w, hw, text, hwrote, h.written w hw q text hwrote⟩
  · simp only [not_exists, not_and] at hwrote
    exact .inl (h.others q hwrote)

theorem keeps (h : p.Sound ready modules s) (hfit : p.Fit ready modules) :
    FileTree.Keeps ready s.files := by
  intro q hq
  rcases h.node?_cases q with heq | ⟨w, hw, text, hwrote, -⟩
  · rw [heq, hq]
  · exact absurd hq (hfit.writable_of_wrote (h.built_mem hw) hwrote).not_directory

theorem ofFile_eq (h : p.Sound ready modules s) (hfit : p.Fit ready modules) {m : ViewModule}
    (hm : m ∈ modules) {path : String} (hpath : path ∈ p.sources m) :
    (Record.ofFile s.files path).1 = (Record.ofFile ready path).1 := by
  -- Every file that is read is as it was. A file that was not there makes every module fail that
  -- needs it, so then nothing is written.
  have hfind : s.files.find path = ready.find path := by
    cases hready : ready.find path with
    | ok node =>
      apply FileTree.find_of_keeps (h.keeps hfit) _ hready
      intro q hplace hnode
      rcases h.node?_cases q with heq | ⟨w, hw, text, hwrote, -⟩
      · rw [heq, hnode]
      · have hapart := hfit.apart _ (h.built_mem hw) m hm path hpath node hready
        exact absurd (hwrote.place_eq.trans hplace.symm) hapart
    | error e =>
      rw [← hready]
      apply FileTree.find_congr
      intro q
      apply h.others
      intro w hw text hwrote
      have hneeded : path ∈ p.sources w.built := by
        rcases mem_sources_iff.1 hpath with happ | rfl
        · exact mem_sources_iff.2 (.inl happ)
        · obtain ⟨node, hnode⟩ := hfit.found m hm
          rw [hready] at hnode
          cases hnode
      exact p.fst_script_ne_ok_of_find hneeded hready text hwrote.script_eq
  rw [Record.ofFile, Record.ofFile, FileTree.readText_congr hfind]

theorem update (h : p.Sound ready modules ⟨files, before ++ w :: after⟩)
    (hbuilt : w'.built = w.built) (hreached : p.Reached ready w')
    (hwork : ∀ path, w.work ≠ .done (.ok path)) (hwork' : ∀ path, w'.work ≠ .done (.ok path)) :
    p.Sound ready modules ⟨files, before ++ w' :: after⟩ where
  built := by
    rw [← h.built]
    simp [hbuilt]
  reached := forall_mem_middle.2 ⟨hreached, (forall_mem_middle.1 h.reached).2⟩
  written := by
    refine forall_mem_middle.2 ⟨?_, (forall_mem_middle.1 h.written).2⟩
    intro q text hwrote
    obtain ⟨path, hdone⟩ := hwrote.done
    exact absurd hdone (hwork' path)
  others := by
    intro q hq
    apply h.others
    refine forall_mem_middle.2 ⟨?_, (forall_mem_middle.1 hq).2⟩
    intro text hwrote
    obtain ⟨path, hdone⟩ := hwrote.done
    exact hwork path hdone

theorem name_ne (h : p.Sound ready modules ⟨files, before ++ w :: after⟩)
    (hfit : p.Fit ready modules) : ∀ x ∈ before ++ after, x.built.name ≠ w.built.name := by
  have hnames := hfit.names_ne
  rw [← h.built, List.pairwise_map, List.perm_middle.pairwise_iff Ne.symm,
    List.pairwise_cons] at hnames
  intro x hx
  exact (hnames.1 x hx).symm

theorem write (h : p.Sound ready modules ⟨files, before ++ w :: after⟩)
    (hfit : p.Fit ready modules) (hscript : (p.script ready w.built).1 = .ok text)
    (hwork : ∀ path, w.work ≠ .done (.ok path)) :
    ∃ written, files.writeText (w.built.outFile p.outDir) text = .ok written ∧
      p.Sound ready modules
        ⟨written, before ++ ⟨w.built, .done (.ok (w.built.outFile p.outDir))⟩ :: after⟩ := by
  have hw : w.built ∈ modules := h.built_mem (by simp)
  obtain ⟨q, hready⟩ := hfit.writable _ hw text hscript
  have hfree : ∀ x ∈ before ++ w :: after, ∀ text', ¬ p.Wrote ready x q text' := by
    refine forall_mem_middle.2 ⟨?_, ?_⟩
    · intro text' hwrote
      obtain ⟨path, hdone⟩ := hwrote.done
      exact hwork path hdone
    · intro x hx text' hwrote
      have hx' : x.built ∈ modules := h.built_mem (List.perm_middle.mem_iff.2 (.tail w hx))
      exact h.name_ne hfit x hx
        (hfit.name_eq_of_place hx' hw hwrote.place_eq hready.place_eq)
  have hsame : files.node? q = ready.node? q := h.others q hfree
  have hwritable : FileTree.Writable files (w.built.outFile p.outDir) q := by
    apply hready.of_keeps (h.keeps hfit)
    · rw [hsame]
      exact hready.not_directory
    · rw [hsame]
      exact id
  refine ⟨_, FileTree.writeText_eq_ok_iff.2 ⟨q, hwritable, rfl⟩, ?_⟩
  constructor
  case built =>
    rw [← h.built]
    simp
  case reached =>
    refine forall_mem_middle.2 ⟨?_, (forall_mem_middle.1 h.reached).2⟩
    simp [Reached, resultOf, hscript, Except.map]
  case written =>
    refine forall_mem_middle.2 ⟨?_, ?_⟩
    · intro q' text' hwrote
      have hplace : q' = q := Except.ok.inj (hwrote.place_eq.symm.trans hready.place_eq)
      have htext : text' = text := Except.ok.inj (hwrote.script_eq.symm.trans hscript)
      rw [hwritable.node?_put, if_pos hplace, htext]
    · intro x hx q' text' hwrote
      have hne : q' ≠ q := by
        rintro rfl
        exact (forall_mem_middle.1 hfree).2 x hx text' hwrote
      rw [hwritable.node?_put, if_neg hne]
      exact (forall_mem_middle.1 h.written).2 x hx q' text' hwrote
  case others =>
    intro q' hq'
    obtain ⟨hself, hrest⟩ := forall_mem_middle.1 hq'
    have hne : q' ≠ q := by
      rintro rfl
      exact hself text ⟨⟨_, rfl⟩, hscript, hready.place_eq⟩
    rw [hwritable.node?_put, if_neg hne]
    apply h.others
    refine forall_mem_middle.2 ⟨?_, hrest⟩
    intro text' hwrote
    obtain ⟨path, hdone⟩ := hwrote.done
    exact hwork path hdone

end Sound

theorem Turn.sound (hfit : p.Fit ready modules) (h : p.Turn s s') (hs : p.Sound ready modules s) :
    p.Sound ready modules s' := by
  obtain @⟨files, w, before, after, busy⟩ := h
  have hw : w.built ∈ modules := hs.built_mem (by simp)
  have hreached := (forall_mem_middle.1 hs.reached).1
  obtain ⟨m, work⟩ := w
  cases work with
  | done written => exact absurd busy (lt_irrefl 0)
  | writing text =>
    obtain ⟨written, hwritten, hsound⟩ := hs.write hfit hreached (by simp)
    simp only [takeTurn, hwritten]
    exact hsound
  | reading below paths =>
    obtain ⟨hsub, hlaid⟩ := hreached
    cases paths with
    | nil =>
      have hwriting : p.Reached ready ⟨m, .writing (p.scriptOf below)⟩ := by
        rw [Reached, fst_script_eq_of_layFiles, hlaid]
        rfl
      simp only [takeTurn]
      exact hs.update rfl hwriting (by simp) (by simp)
    | cons path rest =>
      have hsame := hs.ofFile_eq hfit hw (hsub List.mem_cons_self)
      rw [fst_layFiles_cons] at hlaid
      simp only [takeTurn, hsame]
      cases hread : (Record.ofFile ready path).1 with
      | error e =>
        rw [hread] at hlaid
        have hdone : p.Reached ready ⟨m, .done (.error (.ofError e))⟩ := by
          rw [Reached, resultOf, fst_script_eq_of_layFiles, hlaid]
          rfl
        exact hs.update rfl hdone (by simp) (by simp)
      | ok layer =>
        rw [hread] at hlaid
        have hreading : p.Reached ready ⟨m, .reading (below.overlay layer) rest⟩ :=
          ⟨(List.cons_subset.1 hsub).2, hlaid⟩
        exact hs.update rfl hreading (by simp) (by simp)

theorem Runs.sound (hfit : p.Fit ready modules) (h : p.Runs (p.opened ready modules) s) :
    p.Sound ready modules s := by
  induction h with
  | refl => exact sound_opened p ready modules
  | tail _ hturn ih => exact hturn.sound hfit ih

/-- Every order of the turns ends with the same results and the same files. -/
theorem finished_of_runs (hfit : p.Fit ready modules) (h : p.Runs (p.opened ready modules) s)
    {results : List Result} (hdone : s.workers = results.map Worker.finished) :
    results = modules.map (p.resultOf ready) ∧
      (∀ m ∈ modules, ∀ text, (p.script ready m).1 = .ok text →
        s.files.readText (m.outFile p.outDir) = .ok text) ∧
      ∀ q, (∀ m ∈ modules, ∀ text, (p.script ready m).1 = .ok text →
          ready.place (m.outFile p.outDir) ≠ .ok q) →
        s.files.node? q = ready.node? q := by
  have hsound := Runs.sound hfit h
  have hresult : ∀ r ∈ results, p.resultOf ready r.built = r := by
    intro r hr
    have hworker := hsound.reached (.finished r) (hdone ▸ List.mem_map_of_mem hr)
    obtain ⟨m, written⟩ := r
    obtain rfl : written = (p.resultOf ready m).written := hworker
    rfl
  have hmodules : results.map Result.built = modules := by
    rw [← hsound.built, hdone, List.map_map]
    rfl
  refine ⟨?_, ?_, ?_⟩
  · rw [← hmodules, List.map_map]
    exact (List.map_id results).symm.trans (List.map_congr_left fun r hr => (hresult r hr).symm)
  · intro m hm text htext
    rw [← hmodules] at hm
    obtain ⟨r, hr, rfl⟩ := List.mem_map.1 hm
    have hworker : Worker.finished r ∈ s.workers := hdone ▸ List.mem_map_of_mem hr
    have hwritten : r.written = .ok (r.built.outFile p.outDir) := by
      rw [← hresult r hr, resultOf, htext]
      rfl
    obtain ⟨q, hwritable⟩ := hfit.writable _ (hsound.built_mem hworker) text htext
    have hwrote : p.Wrote ready (.finished r) q text :=
      ⟨⟨_, congrArg Work.done hwritten⟩, htext, hwritable.place_eq⟩
    exact hwritable.readText_eq (hsound.keeps hfit) (hsound.written _ hworker q text hwrote)
  · intro q hq
    apply hsound.others
    intro w hw text hwrote
    exact hq w.built (hsound.built_mem hw) text hwrote.script_eq hwrote.place_eq

end ViewLayers.BuildPlan
