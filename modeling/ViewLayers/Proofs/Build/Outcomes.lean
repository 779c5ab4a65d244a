import Mathlib
import ViewLayers.CommandLine.Run
import ViewLayers.Proofs.Build.Discovery
import ViewLayers.Proofs.Build.Independence

/-!
# What a build leaves behind

However the workers take their turns, a build ends in the same way. Every module that compiles has
its script, a module that fails has nothing, no other file has changed, and the lines that tell of
the modules stand in the order of their names.
-/

namespace ViewLayers

theorem FileTree.IsName.append_js {name : String} (h : IsName name) : IsName (name ++ ".js") := by
  have hlong : ∀ s : String, s.length < 3 → name ++ ".js" ≠ s := by
    rintro s hs rfl
    have hlength : (name ++ ".js").length = name.length + 3 := by
      rw [String.length_append]
      rfl
    omega
  refine ⟨hlong _ (by decide), hlong _ (by decide), hlong _ (by decide), ?_⟩
  simp [String.toList_append, h.slash_notMem]

def Message.plain? : Message → Option String
  | .notice _ => none
  | .plain text => some text

namespace BuildPlan

def allCompile (p : BuildPlan) (ready : FileTree) (modules : List ViewModule) : Bool :=
  modules.all fun m => (p.compiled ready m).isOk

def wroteLine? (p : BuildPlan) (color : Bool) (ready : FileTree) (m : ViewModule) :
    Option String :=
  match p.compiled ready m with
  | .ok _ => some (statusLine color .wrote (m.outFile p.outDir) ++ "\n")
  | .error _ => none

def failureLine? (p : BuildPlan) (color : Bool) (ready : FileTree) (m : ViewModule) :
    Option String :=
  match p.compiled ready m with
  | .ok _ => none
  | .error e => some (statusLine color .failed (m.name ++ ": " ++ (Failure.ofError e).inline))

def doneLine (color : Bool) (count : Nat) : String :=
  statusLine color .done (toString count ++ " module(s) compiled") ++ "\n"

/-- The files after a build: a script for every module that compiles, and else no change. -/
structure BuiltFiles (p : BuildPlan) (files ready : FileTree) (modules : List ViewModule)
    (after : FileTree) : Prop where
  written : ∀ m ∈ modules, ∀ compiled, p.compiled ready m = .ok compiled →
    after.readText (m.outFile p.outDir) = .ok (Script.render compiled.procedure)
  kept : ∀ q, (∀ m ∈ modules, ∀ compiled, p.compiled ready m = .ok compiled →
      ready.place (m.outFile p.outDir) ≠ .ok q) →
    ∀ content, after.node? q = some (.file content) ↔ files.node? q = some (.file content)
  failed : ∀ m ∈ modules, ∀ e, p.compiled ready m = .error e →
    ∀ q, ready.place (m.outFile p.outDir) = .ok q →
    ∀ content, after.node? q = some (.file content) ↔ files.node? q = some (.file content)

structure Built (p : BuildPlan) (color : Bool) (start : String) (files ready : FileTree)
    (modules : List ViewModule) (outcome : Outcome) : Prop where
  builtFiles : p.BuiltFiles files ready modules outcome.files
  output_eq : outcome.output =
    start ++ String.join (modules.filterMap (p.wroteLine? color ready)) ++
      if modules ≠ [] ∧ p.allCompile ready modules then doneLine color modules.length else ""
  errors_eq : outcome.messages.filterMap Message.plain? =
    let failures := modules.filterMap (p.failureLine? color ready)
    failures ++ if p.allCompile ready modules then []
      else [(BuildOptions.someFailed failures.length modules.length).report]
  status_iff : outcome.status = .success ↔
    ∀ m ∈ modules, ∃ compiled, p.compiled ready m = .ok compiled

section Built

variable {p : BuildPlan} {color : Bool} {start : String} {files ready : FileTree}
  {modules : List ViewModule}

theorem writtenLine?_resultOf (m : ViewModule) :
    BuildOptions.writtenLine? color (p.resultOf ready m) = p.wroteLine? color ready m := by
  rw [BuildOptions.writtenLine?, resultOf, fst_script, wroteLine?]
  cases p.compiled ready m with
  | error e => rfl
  | ok compiled => rfl

theorem failedLine?_resultOf (m : ViewModule) :
    BuildOptions.failedLine? color (p.resultOf ready m) = p.failureLine? color ready m := by
  rw [BuildOptions.failedLine?, resultOf, fst_script, failureLine?]
  cases p.compiled ready m with
  | error e => rfl
  | ok compiled => rfl

theorem isEmpty_failures : (modules.filterMap (p.failureLine? color ready)).isEmpty =
    p.allCompile ready modules := by
  rw [Bool.eq_iff_iff, List.isEmpty_iff, List.filterMap_eq_nil_iff, allCompile, List.all_eq_true]
  apply forall₂_congr
  intro m hm
  rw [failureLine?]
  cases p.compiled ready m with
  | error e => simp [Except.isOk, Except.toBool]
  | ok compiled => simp [Except.isOk, Except.toBool]

theorem allCompile_iff : p.allCompile ready modules = true ↔
    ∀ m ∈ modules, ∃ compiled, p.compiled ready m = .ok compiled := by
  rw [allCompile, List.all_eq_true]
  apply forall₂_congr
  intro m hm
  cases p.compiled ready m with
  | error e => simp [Except.isOk, Except.toBool]
  | ok compiled => simp [Except.isOk, Except.toBool]

theorem compiled_of_enlarges (h : FileTree.Enlarges files ready) {m : ViewModule}
    {compiled : Compiled} (hcompiled : p.compiled files m = .ok compiled) :
    p.compiled ready m = .ok compiled := by
  rw [BuildPlan.compiled, fst_compileFiles] at hcompiled ⊢
  cases hentries : (layFiles files [] (p.sources m)).1 with
  | error e => simp [hentries, Except.map] at hcompiled
  | ok entries =>
    rw [hentries] at hcompiled
    rw [fst_layFiles_eq_ok_of_ofFile (fun _ _ => h.fst_ofFile_eq) hentries, hcompiled]

theorem fst_script_eq_ok_iff {m : ViewModule} {text : String} : (p.script ready m).1 = .ok text ↔
    ∃ compiled, p.compiled ready m = .ok compiled ∧ Script.render compiled.procedure = text := by
  rw [fst_script]
  cases p.compiled ready m with
  | error e => simp [Except.map, Except.mapError]
  | ok compiled => simp [Except.map, Except.mapError]

@[simp] theorem filterMap_plain?_notices (notices : List Notice) :
    (notices.map Message.notice).filterMap Message.plain? = [] := by
  rw [List.filterMap_map]
  exact List.filterMap_eq_nil_iff.2 fun _ _ => rfl

@[simp] theorem filterMap_plain?_texts (texts : List String) :
    (texts.map Message.plain).filterMap Message.plain? = texts := by
  rw [List.filterMap_map]
  exact List.filterMap_some

theorem conclude_resultOf (after : FileTree) (notices : List Notice) :
    BuildOptions.conclude color after start (notices.map .notice) (modules.map (p.resultOf ready)) =
      let failures := modules.filterMap (p.failureLine? color ready)
      let messages := notices.map Message.notice ++ failures.map .plain
      let shown := start ++ String.join (modules.filterMap (p.wroteLine? color ready))
      if p.allCompile ready modules then
        ⟨.success, shown ++ doneLine color modules.length, messages, after⟩
      else
        ⟨.failure, shown, messages ++
          [.plain (BuildOptions.someFailed failures.length modules.length).report], after⟩ := by
  have hfailed : (modules.map (p.resultOf ready)).filterMap (BuildOptions.failedLine? color) =
      modules.filterMap (p.failureLine? color ready) := by
    rw [List.filterMap_map]
    exact List.filterMap_congr fun m _ => failedLine?_resultOf m
  have hwrote : (modules.map (p.resultOf ready)).filterMap (BuildOptions.writtenLine? color) =
      modules.filterMap (p.wroteLine? color ready) := by
    rw [List.filterMap_map]
    exact List.filterMap_congr fun m _ => writtenLine?_resultOf m
  rw [BuildOptions.conclude]
  simp only [hfailed, hwrote, isEmpty_failures, List.length_map, doneLine, String.append_assoc]

section Finished

variable (hfit : p.Fit ready modules) (hready : FileTree.Enlarges files ready) {s : Shop}
  {results : List Result} (hruns : p.Runs (p.opened ready modules) s)
  (hdone : s.workers = results.map Worker.finished)
include hfit hready hruns hdone

theorem builtFiles_of_runs : p.BuiltFiles files ready modules s.files := by
  obtain ⟨-, hwritten, hothers⟩ := finished_of_runs hfit hruns hdone
  have hkept : ∀ q, (∀ m ∈ modules, ∀ compiled, p.compiled ready m = .ok compiled →
        ready.place (m.outFile p.outDir) ≠ .ok q) →
      ∀ content, s.files.node? q = some (.file content) ↔ files.node? q = some (.file content) := by
    intro q hq content
    rw [hothers q, hready.node?_file_iff]
    intro m hm text htext
    obtain ⟨compiled, hcompiled, -⟩ := fst_script_eq_ok_iff.1 htext
    exact hq m hm compiled hcompiled
  refine ⟨?_, hkept, ?_⟩
  · intro m hm compiled hcompiled
    exact hwritten m hm _ (fst_script_eq_ok_iff.2 ⟨compiled, hcompiled, rfl⟩)
  · intro m hm e hfails q hplace
    apply hkept q
    intro n hn compiled hcompiled hother
    have hne : m ≠ n := by
      rintro rfl
      rw [hfails] at hcompiled
      cases hcompiled
    have hsymm : Std.Symm fun m n : ViewModule => m.name ≠ n.name := ⟨fun _ _ h => h.symm⟩
    exact hfit.names_ne.forall hm hn hne
      (hfit.name_eq_of_place hm hn hplace hother)

theorem built_conclude (hne : modules ≠ []) (notices : List Notice) :
    p.Built color start files ready modules
      (BuildOptions.conclude color s.files start (notices.map .notice) results) := by
  have hfiles := builtFiles_of_runs hfit hready hruns hdone
  obtain ⟨rfl, -, -⟩ := finished_of_runs hfit hruns hdone
  rw [conclude_resultOf]
  cases hall : p.allCompile ready modules with
  | true =>
    constructor
    case builtFiles => exact hfiles
    case output_eq => simp [hall, hne]
    case errors_eq =>
      simp only [hall, ↓reduceIte, List.filterMap_append, filterMap_plain?_notices,
        filterMap_plain?_texts, List.nil_append, List.append_nil]
    case status_iff => simpa using allCompile_iff.1 hall
  | false =>
    constructor
    case builtFiles => exact hfiles
    case output_eq => simp [hall]
    case errors_eq =>
      simp only [hall, Bool.false_eq_true, ↓reduceIte, List.filterMap_append,
        filterMap_plain?_notices, filterMap_plain?_texts, List.nil_append]
      rfl
    case status_iff => simp [← allCompile_iff, hall]

end Finished

theorem built_nil (notices : List Notice) :
    p.Built color start files ready [] (.succeeded files start notices) where
  builtFiles := ⟨nofun, fun _ _ _ => Iff.rfl, nofun⟩
  output_eq := by simp [Outcome.succeeded]
  errors_eq := filterMap_plain?_notices notices
  status_iff := by simp [Outcome.succeeded]

end Built

end BuildPlan

namespace BuildOptions

def plan (o : BuildOptions) (now : Moment) (constants : Constants) : BuildPlan :=
  ⟨o.appConfig, o.outDir, constants, o.merge.date.getD now⟩

def modules (o : BuildOptions) (files : FileTree) : List ViewModule :=
  ViewModule.discover files o.modulesDir

/-- The modules can be looked for. If there are any, the constants are read, the scripts can be
written, and none takes the place of a file that is compiled. -/
structure Prepared (o : BuildOptions) (now : Moment) (files ready : FileTree)
    (constants : Constants) : Prop where
  wellFormed : files.WellFormed
  modulesDir : files.isDirectory o.modulesDir = true
  directories : o.modules files ≠ [] → files.createDirectories o.outDir = .ok ready
  loaded : o.modules files ≠ [] → (o.merge.loadConstants ready).1 = .ok constants
  writable : ∀ m ∈ o.modules files, ∀ compiled,
    (o.plan now constants).compiled ready m = .ok compiled →
      ∃ after, ready.writeText (m.outFile o.outDir) (Script.render compiled.procedure) = .ok after
  apart : ∀ m ∈ o.modules files, ∀ n ∈ o.modules files,
    ∀ path ∈ (o.plan now constants).sources n, ∀ node, ready.find path = .ok node →
      ready.place (m.outFile o.outDir) ≠ ready.place path

/-- The ends that the build can have, one for every order of the turns. -/
inductive CanEnd (o : BuildOptions) (color : Bool) (now : Moment) (files ready : FileTree)
    (constants : Constants) : Outcome → Prop
  | idle (notices : List Notice) (nothing : o.modules files = []) :
    CanEnd o color now files ready constants
      (.succeeded files (scanLine color o (o.modules files)) notices)
  | built (notices : List Notice) {s : Shop} {results : List BuildPlan.Result}
    (something : o.modules files ≠ [])
    (runs : (o.plan now constants).Runs ((o.plan now constants).opened ready (o.modules files)) s)
    (done : s.workers = results.map Worker.finished) :
    CanEnd o color now files ready constants
      (conclude color s.files (scanLine color o (o.modules files)) (notices.map .notice) results)

section Run

variable {o : BuildOptions} {now : Moment} {files ready : FileTree} {constants : Constants}

theorem Prepared.enlarges (h : o.Prepared now files ready constants)
    (hne : o.modules files ≠ []) : FileTree.Enlarges files ready :=
  FileTree.enlarges_of_createDirectories (h.directories hne)

theorem Prepared.fit (h : o.Prepared now files ready constants) :
    (o.plan now constants).Fit ready (o.modules files) := by
  have hfound : ViewModule.Discovered files o.modulesDir (o.modules files) :=
    ViewModule.discovered h.wellFormed h.modulesDir
  constructor
  case names_ne =>
    apply hfound.ordered.imp
    intro m n hlt heq
    rw [heq] at hlt
    exact List.lt_irrefl _ hlt
  case isName =>
    intro m hm
    exact (hfound.isName m hm).append_js
  case found =>
    intro m hm
    obtain ⟨content, hfile⟩ := (hfound.found_iff m.name (hfound.isName m hm)).1 ⟨m, hm, rfl⟩
    rw [hfound.path_eq m hm]
    exact ⟨_, (h.enlarges (List.ne_nil_of_mem hm)).find_eq hfile⟩
  case writable =>
    intro m hm text htext
    obtain ⟨compiled, hcompiled, -⟩ := BuildPlan.fst_script_eq_ok_iff.1 htext
    obtain ⟨after, hafter⟩ := h.writable m hm compiled hcompiled
    obtain ⟨q, hwritable, -⟩ := FileTree.writeText_eq_ok_iff.1 hafter
    exact ⟨q, hwritable⟩
  case apart => exact h.apart

theorem Prepared.canEnd_run (h : o.Prepared now files ready constants) (color : Bool) :
    o.CanEnd color now files ready constants (o.run color now files) := by
  have hmodules : ViewModule.discover files o.modulesDir = o.modules files := rfl
  rw [BuildOptions.run, if_neg (by simp [h.modulesDir])]
  simp only [hmodules]
  by_cases hne : o.modules files = []
  · rw [if_pos (List.isEmpty_iff.2 hne)]
    exact .idle _ hne
  · rw [if_neg (by simpa using hne), h.directories hne]
    have hloaded := h.loaded hne
    simp only
    cases hload : o.merge.loadConstants ready with
    | mk result notices =>
      rw [hload] at hloaded
      obtain rfl : result = .ok constants := hloaded
      exact .built _ hne (BuildPlan.runs_buildAll [] _ ready _) rfl

def twoModules : FileTree :=
  ⟨[(["app.yml"], .file "all: {layout: base}\n".toUTF8), (["modules"], .directory),
    (["modules", "good"], .directory), (["modules", "good", "config"], .directory),
    (["modules", "good", "config", "view.yml"], .file "all: {template: form}\n".toUTF8),
    (["modules", "bad"], .directory), (["modules", "bad", "config"], .directory),
    (["modules", "bad", "config", "view.yml"], .file "[]\n".toUTF8)]⟩

def twoModulesReady : FileTree := ⟨twoModules.nodes ++ [(["out"], .directory)]⟩

def twoModulesBuild : BuildOptions := ⟨some "app.yml", "modules", "out", ⟨none, none⟩⟩

theorem wellFormed_twoModules : twoModules.WellFormed := by
  constructor
  case distinct => decide
  case named => simp [twoModules, FileTree.isName_iff]
  case inside => simp [twoModules, FileTree.node?]

theorem place_twoModulesReady {name : String} (hname : FileTree.IsName name) :
    twoModulesReady.place (FileTree.join "out" name) = .ok ["out", name] := by
  have hplace : twoModulesReady.place "out" = .ok ["out"] := by
    cbv
  exact FileTree.place_join hname hplace (by simp [twoModulesReady, twoModules, FileTree.node?])

theorem node?_twoModulesReady (name : String) : twoModulesReady.node? ["out", name] = none := by
  simp [twoModulesReady, twoModules, FileTree.node?]

theorem prepared_twoModules :
    twoModulesBuild.Prepared default twoModules twoModulesReady Constants.empty := by
  have hmodulesDir : twoModules.isDirectory "modules" = true := by
    cbv
  have hfound : ViewModule.Discovered twoModules "modules" (twoModulesBuild.modules twoModules) :=
    ViewModule.discovered wellFormed_twoModules hmodulesDir
  constructor
  case wellFormed => exact wellFormed_twoModules
  case modulesDir => exact hmodulesDir
  case directories =>
    intro _
    cbv
  case loaded => exact fun _ => rfl
  case writable =>
    intro m hm compiled _
    have hname := (hfound.isName m hm).append_js
    refine ⟨_, FileTree.writeText_eq_ok_iff.2
      ⟨["out", m.name ++ ".js"], ⟨place_twoModulesReady hname, ?_, ?_, ?_⟩, rfl⟩⟩
    · simp [node?_twoModulesReady]
    · intro _
      simp [twoModulesReady, twoModules, FileTree.node?]
    · exact FileTree.asksDirectory_join _ hname
  case apart =>
    intro m hm n hn path hpath node hnode hsame
    obtain ⟨q, hplace, hthere, -⟩ := FileTree.find_eq_ok_iff.1 hnode
    have hout : Except.ok ["out", m.name ++ ".js"] = twoModulesReady.place path :=
      (place_twoModulesReady (hfound.isName m hm).append_js).symm.trans hsame
    rw [hplace] at hout
    cases hout
    rw [node?_twoModulesReady] at hthere
    cases hthere

theorem exists_mem_twoModules {name text : String} (hname : FileTree.IsName name)
    (hnode : twoModules.node? (["modules"] ++ [name] ++ ViewModule.fileParts) =
      some (.file text.toUTF8)) :
    ∃ m ∈ twoModulesBuild.modules twoModules, m.name = name ∧
      twoModulesReady.find m.path = .ok (.file text.toUTF8) := by
  have hplace : twoModules.place "modules" = .ok ["modules"] := by
    cbv
  have hhere : twoModules.node? ["modules"] = some .directory := by
    simp [twoModules, FileTree.node?]
  have hfile :=
    (ViewModule.find_viewFile_iff wellFormed_twoModules hplace hhere hname).2 hnode
  have hmem : ⟨name, ViewModule.viewFile "modules" name⟩ ∈ twoModulesBuild.modules twoModules :=
    (ViewModule.mem_discover_iff wellFormed_twoModules hplace).2 ⟨rfl, _, hnode⟩
  exact ⟨_, hmem, rfl,
    (prepared_twoModules.enlarges (List.ne_nil_of_mem hmem)).find_eq hfile⟩

end Run

end BuildOptions

end ViewLayers
