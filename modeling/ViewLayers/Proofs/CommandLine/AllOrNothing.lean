import Mathlib
import ViewLayers.CommandLine.Run
import ViewLayers.Proofs.CommandLine.Stages
import ViewLayers.Proofs.Files.Writes

/-!
# Compiling is all or nothing

The text is made whole before anything is written. So a run either hands over the whole text, to
the output or to one file, or something was wrong with the arguments, the constants, one of the
files or a key, or a counter ran over, and then there is no output and every file is as it was.
-/

namespace ViewLayers

theorem endsWith_endedLine (text : String) : (endedLine text).endsWith "\n" = true := by
  rw [endedLine]
  split
  · assumption
  · rw [endsWith_iff, String.toList_append]
    exact List.suffix_append _ _

namespace CompileOptions

/-- What is compiled from all the files that the arguments stand for, in their order. -/
def Compiles (o : CompileOptions) (now : Moment) (files : FileTree) (compiled : Compiled) : Prop :=
  ∃ found constants,
    List.Forall₂ (Expands files) o.files found ∧ found.flatten ≠ [] ∧
      o.merge.Knows files constants ∧
      (compileFiles files found.flatten constants (o.merge.date.getD now)).1 = .ok compiled

/-- The counter for the items of a list runs over while the procedure is built. -/
def RunsOver (o : CompileOptions) (now : Moment) (files : FileTree) : Prop :=
  ∃ compiled, o.Compiles now files compiled ∧ compiled.merged.isCompilable = false

def Yields (o : CompileOptions) (now : Moment) (files : FileTree) (text : String) : Prop :=
  ∃ compiled written,
    o.Compiles now files compiled ∧ o.format.write compiled.procedure = .ok written ∧
      text = endedLine written

inductive Fault (o : CompileOptions) (now : Moment) (files : FileTree) : Prop
  | pattern {argument : String} {e : Error} (given : argument ∈ o.files)
      (wrong : expandPath files argument = .error e)
  | noFiles (nothing : ∀ argument ∈ o.files, Expands files argument [])
  | constants {path : String} (given : o.merge.constants = some path)
      (wrong : ∀ table, ¬ HoldsTable files path table)
  | file {found : List (List String)} {path : String}
      (found_eq : List.Forall₂ (Expands files) o.files found) (given : path ∈ found.flatten)
      (wrong : ∀ entries, ¬ HoldsRecord files path entries)
  | key {compiled : Compiled} {fault : JsonFault} (compiles : o.Compiles now files compiled)
      (asked : o.format = .json) (wrong : compiled.procedure.jsonText = .error fault)

variable {o : CompileOptions} {now : Moment} {files : FileTree} {text : String}

section Text

theorem Compiles.paths_eq {compiled : Compiled} (h : o.Compiles now files compiled)
    {found : List (List String)} (hfound : List.Forall₂ (Expands files) o.files found) :
    ∃ constants, o.merge.Knows files constants ∧
      (compileFiles files found.flatten constants (o.merge.date.getD now)).1 = .ok compiled := by
  obtain ⟨others, constants, hothers, -, hconstants, hcompiled⟩ := h
  have hsame : others.flatten = found.flatten := by
    have hleft := fst_expandPaths_eq_ok_iff.2 ⟨others, hothers, rfl⟩
    have hright := fst_expandPaths_eq_ok_iff.2 ⟨found, hfound, rfl⟩
    exact Except.ok.inj (hleft.symm.trans hright)
  exact ⟨constants, hconstants, hsame ▸ hcompiled⟩

theorem Compiles.eq {compiled other : Compiled} (h : o.Compiles now files compiled)
    (hother : o.Compiles now files other) : compiled = other := by
  obtain ⟨found, constants, hfound, -, hconstants, hcompiled⟩ := h
  obtain ⟨constants', hconstants', hcompiled'⟩ := hother.paths_eq hfound
  rw [← fst_loadConstants_eq_ok_iff] at hconstants hconstants'
  have hsame : constants = constants' := Except.ok.inj (hconstants.symm.trans hconstants')
  subst hsame
  exact Except.ok.inj (hcompiled.symm.trans hcompiled')

theorem write_eq_error_iff {p : Procedure} {e : Error} (f : OutputFormat) :
    f.write p = .error e ↔ f = .json ∧ ∃ fault, p.jsonText = .error fault ∧ e = .json fault := by
  cases f with
  | script => simp [OutputFormat.write]
  | json =>
    rw [OutputFormat.write]
    cases p.jsonText <;> simp [Except.mapError, eq_comm]

theorem fst_deliverable_eq_ok_iff {f : OutputFormat} {compiled : Compiled}
    {text? : Option String} :
    (f.deliverable (some compiled)).1 = .ok text? ↔
      ∃ written, f.write compiled.procedure = .ok written ∧
        text? = some (endedLine written) := by
  rw [OutputFormat.deliverable]
  cases f.write compiled.procedure <;> simp [Except.map, eq_comm]

theorem fst_deliverable_eq_error_iff {f : OutputFormat} {counted : Option Compiled} {e : Error} :
    (f.deliverable counted).1 = .error e ↔
      ∃ compiled, counted = some compiled ∧ f.write compiled.procedure = .error e := by
  cases counted with
  | none => simp [OutputFormat.deliverable]
  | some compiled =>
    simp only [OutputFormat.deliverable, Option.some.injEq, exists_eq_left']
    cases f.write compiled.procedure <;> simp [Except.map]

theorem fst_text_eq_ok_iff {text? : Option String} :
    (o.text now files).1 = .ok text? ↔
      ∃ compiled, o.Compiles now files compiled ∧
        if compiled.merged.isCompilable then
          ∃ written, o.format.write compiled.procedure = .ok written ∧
            text? = some (endedLine written)
        else text? = none := by
  simp only [CompileOptions.text, Step.fst_andThen_eq_ok_iff, Step.fst_mapError_eq_ok_iff,
    fst_chosenFiles_eq_ok_iff, fst_loadConstants_eq_ok_iff, fst_compileFiles?_eq_ok_iff]
  have hlast : ∀ compiled : Compiled,
      (o.format.deliverable (if compiled.merged.isCompilable then some compiled else none)).1 =
          .ok text? ↔
        if compiled.merged.isCompilable then
          ∃ written, o.format.write compiled.procedure = .ok written ∧
            text? = some (endedLine written)
        else text? = none := by
    intro compiled
    cases compiled.merged.isCompilable with
    | true => exact fst_deliverable_eq_ok_iff
    | false => simp [OutputFormat.deliverable, eq_comm]
  constructor
  · rintro ⟨paths, ⟨hne, found, hfound, rfl⟩, constants, hconstants, counted,
      ⟨compiled, hcompiled, rfl⟩, htext⟩
    exact ⟨compiled, ⟨found, constants, hfound, hne, hconstants, hcompiled⟩,
      (hlast compiled).1 htext⟩
  · rintro ⟨compiled, ⟨found, constants, hfound, hne, hconstants, hcompiled⟩, htext⟩
    exact ⟨found.flatten, ⟨hne, found, hfound, rfl⟩, constants, hconstants, _,
      ⟨compiled, hcompiled, rfl⟩, (hlast compiled).2 htext⟩

theorem fst_text_eq_none_iff : (o.text now files).1 = .ok none ↔ o.RunsOver now files := by
  rw [fst_text_eq_ok_iff, RunsOver]
  refine exists_congr fun compiled => and_congr_right fun _ => ?_
  cases compiled.merged.isCompilable <;> simp

theorem fst_text_eq_some_iff :
    (o.text now files).1 = .ok (some text) ↔ o.Yields now files text ∧ ¬ o.RunsOver now files := by
  rw [fst_text_eq_ok_iff]
  constructor
  · rintro ⟨compiled, hcompiles, htext⟩
    cases hcount : compiled.merged.isCompilable with
    | false => simp [hcount] at htext
    | true =>
      rw [if_pos hcount] at htext
      obtain ⟨written, hwritten, htext⟩ := htext
      refine ⟨⟨compiled, written, hcompiles, hwritten, Option.some.inj htext⟩, ?_⟩
      rintro ⟨other, hother, hover⟩
      rw [hother.eq hcompiles, hcount] at hover
      cases hover
  · rintro ⟨⟨compiled, written, hcompiles, hwritten, rfl⟩, hover⟩
    refine ⟨compiled, hcompiles, ?_⟩
    cases hcount : compiled.merged.isCompilable with
    | false => exact absurd ⟨compiled, hcompiles, hcount⟩ hover
    | true => exact ⟨written, hwritten, rfl⟩

theorem Fault.not_yields (h : o.Fault now files) (text : String) : ¬ o.Yields now files text := by
  rintro ⟨compiled, written, hcompiles, hwritten, rfl⟩
  cases h with
  | pattern given wrong =>
    obtain ⟨found, -, hfound, -⟩ := hcompiles
    obtain ⟨e, he⟩ := exists_fst_expandPaths_eq_error_iff.2 ⟨_, given, _, wrong⟩
    rw [fst_expandPaths_eq_ok_iff.2 ⟨found, hfound, rfl⟩] at he
    cases he
  | noFiles nothing =>
    obtain ⟨found, constants, hfound, hne, -⟩ := hcompiles
    have hall := fst_expandPaths_eq_ok_iff.2 ⟨found, hfound, rfl⟩
    rw [fst_expandPaths_eq_ok_nil_iff.2 nothing] at hall
    exact hne (Except.ok.inj hall).symm
  | constants given wrong =>
    obtain ⟨found, constants, -, -, hconstants, -⟩ := hcompiles
    rw [MergeOptions.Knows, given] at hconstants
    exact wrong constants hconstants
  | file found_eq given wrong =>
    obtain ⟨constants, -, hcompiled⟩ := hcompiles.paths_eq found_eq
    obtain ⟨e, he⟩ := exists_fst_compileFiles_eq_error_iff.2 ⟨_, given, wrong⟩
    rw [hcompiled] at he
    cases he
  | @key other fault compiles asked wrong =>
    have hsame := compiles.eq hcompiles
    subst hsame
    rw [(write_eq_error_iff o.format).2 ⟨asked, fault, wrong, rfl⟩] at hwritten
    cases hwritten

theorem fault_of_fst_text_eq_error {f : Failure} (h : (o.text now files).1 = .error f) :
    o.Fault now files := by
  rw [CompileOptions.text, Step.fst_andThen_eq_error_iff] at h
  rcases h with hchosen | ⟨paths, hchosen, h⟩
  · rcases exists_fst_chosenFiles_eq_error_iff.1 ⟨f, hchosen⟩ with ⟨argument, given, e, wrong⟩ | h
    · exact .pattern given wrong
    · exact .noFiles h
  obtain ⟨hne, found, hfound, rfl⟩ := fst_chosenFiles_eq_ok_iff.1 hchosen
  rw [Step.fst_andThen_eq_error_iff] at h
  rcases h with hconstants | ⟨constants, hconstants, h⟩
  · obtain ⟨path, given, wrong⟩ := exists_fst_loadConstants_eq_error_iff.1 ⟨f, hconstants⟩
    exact .constants given wrong
  rw [fst_loadConstants_eq_ok_iff] at hconstants
  obtain ⟨e, h, -⟩ := Step.fst_mapError_eq_error_iff.1 h
  rcases Step.fst_andThen_eq_error_iff.1 h with hcompiled | ⟨counted, hcounted, h⟩
  · obtain ⟨path, given, wrong⟩ := exists_fst_compileFiles?_eq_error_iff.1 ⟨e, hcompiled⟩
    exact .file hfound given wrong
  -- What is left to fail is writing, and only where no counter ran over.
  obtain ⟨compiled, rfl, hwrite⟩ := fst_deliverable_eq_error_iff.1 h
  obtain ⟨other, hcompiled, hsome⟩ := fst_compileFiles?_eq_ok_iff.1 hcounted
  obtain ⟨-, hother⟩ := Option.ite_none_right_eq_some.1 hsome.symm
  cases hother
  obtain ⟨asked, fault, wrong, -⟩ := (write_eq_error_iff o.format).1 hwrite
  exact .key ⟨found, constants, hfound, hne, hconstants, hcompiled⟩ asked wrong

theorem Yields.endsWith (h : o.Yields now files text) : text.endsWith "\n" = true := by
  obtain ⟨compiled, written, -, -, rfl⟩ := h
  exact endsWith_endedLine written

end Text

def Delivered (o : CompileOptions) (before : FileTree) (text output : String)
    (after : FileTree) : Prop :=
  match o.output with
  | none => output = text ∧ after = before
  | some path =>
    output = "" ∧ after.readText path = .ok text ∧
      ∀ q, before.place path ≠ .ok q → after.node? q = before.node? q

section Run

theorem RunsOver.exists_run_eq (h : o.RunsOver now files) :
    ∃ notices, o.run now files = .overflowed files notices := by
  have htext := fst_text_eq_none_iff.2 h
  refine ⟨(o.text now files).2, ?_⟩
  rw [run, ← Prod.mk.eta (p := o.text now files), htext]

theorem Fault.exists_run_eq (h : o.Fault now files) (hover : ¬ o.RunsOver now files) :
    ∃ f notices, o.run now files = .failed files f notices := by
  cases htext : o.text now files with
  | mk result notices =>
    cases result with
    | error f => exact ⟨f, notices, by rw [run, htext]⟩
    | ok text? =>
      have hfst := congrArg Prod.fst htext
      cases text? with
      | none => exact absurd (fst_text_eq_none_iff.1 hfst) hover
      | some text => exact absurd (fst_text_eq_some_iff.1 hfst).1 (h.not_yields text)

theorem exists_yields (h : ¬ o.Fault now files) (hover : ¬ o.RunsOver now files) :
    ∃ text, o.Yields now files text := by
  cases htext : (o.text now files).1 with
  | error f => exact absurd (fault_of_fst_text_eq_error htext) h
  | ok text? =>
    cases text? with
    | none => exact absurd (fst_text_eq_none_iff.1 htext) hover
    | some text => exact ⟨text, (fst_text_eq_some_iff.1 htext).1⟩

theorem Yields.delivered (h : o.Yields now files text) (hover : ¬ o.RunsOver now files)
    (hwrite : ∀ path, o.output = some path → ∃ after, files.writeText path text = .ok after) :
    (o.run now files).status = .success ∧
      o.Delivered files text (o.run now files).output (o.run now files).files := by
  obtain ⟨notices, htext⟩ : ∃ notices, o.text now files = (.ok (some text), notices) :=
    ⟨_, Prod.ext (fst_text_eq_some_iff.2 ⟨h, hover⟩) rfl⟩
  rw [run, htext, Delivered]
  cases ho : o.output with
  | none => exact ⟨rfl, rfl, rfl⟩
  | some path =>
    obtain ⟨after, hafter⟩ := hwrite path ho
    simp only [hafter]
    exact ⟨rfl, rfl, FileTree.readText_of_writeText hafter,
      fun q hq => FileTree.node?_of_writeText hafter hq⟩

variable {s : Surroundings} {arguments : List String} {i : Invocation}

theorem runProgram_of_stop {stop : Stop}
    (hstop : Invocation.ofArguments s.environment arguments = .error stop) :
    (runProgram s arguments).files = s.files ∧
      (stop = .misuse →
        (runProgram s arguments).status = .misuse ∧ (runProgram s arguments).output = "") := by
  rw [runProgram, hstop]
  cases stop with
  | misuse => exact ⟨rfl, fun _ => ⟨rfl, rfl⟩⟩
  | help => exact ⟨rfl, nofun⟩
  | version => exact ⟨rfl, nofun⟩

theorem runProgram_of_ofArguments (hi : Invocation.ofArguments s.environment arguments = .ok i)
    (hcommand : i.command = .compile o) :
    (runProgram s arguments).status = (o.run s.now s.files).status ∧
      (runProgram s arguments).output = (o.run s.now s.files).output ∧
      (runProgram s arguments).files = (o.run s.now s.files).files := by
  rw [runProgram, hi]
  simp only [Invocation.run, hcommand, Command.run, and_self]

/-- Arguments that ask for no command change nothing, and none that are misused give any output.
A run of the command in which a counter runs over is cut off with no output and leaves all files
alone. Any other either delivers the whole text or, exactly when something is wrong, fails, and
again gives no output and leaves all files alone. -/
theorem runProgram_compile (s : Surroundings) (arguments : List String) :
    (∀ stop, Invocation.ofArguments s.environment arguments = .error stop →
        (runProgram s arguments).files = s.files ∧
          (stop = .misuse →
            (runProgram s arguments).status = .misuse ∧ (runProgram s arguments).output = "")) ∧
      ∀ i o, Invocation.ofArguments s.environment arguments = .ok i → i.command = .compile o →
        (∀ path text, o.output = some path → o.Yields s.now s.files text →
          ∃ after, s.files.writeText path text = .ok after) →
        (o.RunsOver s.now s.files →
            (runProgram s arguments).status = .aborted ∧ (runProgram s arguments).output = "" ∧
              (runProgram s arguments).files = s.files) ∧
          (¬ o.RunsOver s.now s.files →
            (o.Fault s.now s.files →
                (runProgram s arguments).status = .failure ∧ (runProgram s arguments).output = "" ∧
                  (runProgram s arguments).files = s.files) ∧
              (¬ o.Fault s.now s.files →
                ∃ text, o.Yields s.now s.files text ∧ text.endsWith "\n" = true ∧
                  (runProgram s arguments).status = .success ∧
                  o.Delivered s.files text (runProgram s arguments).output
                    (runProgram s arguments).files)) := by
  refine ⟨fun stop => runProgram_of_stop, ?_⟩
  intro i o hi hcommand hwrite
  obtain ⟨hstatus, houtput, hfiles⟩ := runProgram_of_ofArguments hi hcommand
  rw [hstatus, houtput, hfiles]
  refine ⟨fun hover => ?_, fun hover => ⟨fun hfault => ?_, fun hsound => ?_⟩⟩
  · obtain ⟨notices, hrun⟩ := hover.exists_run_eq
    rw [hrun]
    exact ⟨rfl, rfl, rfl⟩
  · obtain ⟨f, notices, hrun⟩ := hfault.exists_run_eq hover
    rw [hrun]
    exact ⟨rfl, rfl, rfl⟩
  · obtain ⟨text, hyields⟩ := exists_yields hsound hover
    exact ⟨text, hyields, hyields.endsWith,
      hyields.delivered hover fun path hpath => hwrite path text hpath hyields⟩

def recompiled : Surroundings where
  environment := fun _ => none
  now := default
  files := ⟨[(["a"], .file "edit: {template: form}\n".toUTF8),
    (["full"], .file "all: {metas: {18446744073709551614: a}}\nedit: {metas: [b]}\n".toUTF8),
    (["out.js"], .file "old".toUTF8)]⟩
  isTerminal := false
  logsToTerminal := false

def recompilation (paths : List String) : CompileOptions :=
  ⟨paths, some "out.js", .script, ⟨none, none⟩⟩

theorem compiles_recompilation {path : String} {entries : Record}
    (hexpand : Expands recompiled.files path [path])
    (hread : (Record.ofFile recompiled.files path).1 = .ok entries) :
    (recompilation [path]).Compiles recompiled.now recompiled.files
      (compileTree Constants.empty.lookup recompiled.now
        (ViewTree.ofEntries (Record.overlay [] entries))) := by
  refine ⟨[[path]], Constants.empty, .cons hexpand .nil, List.cons_ne_nil _ _, rfl, ?_⟩
  rw [List.flatten_singleton, fst_compileFiles, fst_layFiles_cons, hread]
  rfl

theorem runProgram_compile_recompiled :
    Invocation.ofArguments recompiled.environment ["compile", "a", "-o", "out.js"] =
        .ok ⟨"auto", "warn", .compile (recompilation ["a"])⟩ ∧
      Invocation.ofArguments recompiled.environment ["compile", "a", "missing", "-o", "out.js"] =
        .ok ⟨"auto", "warn", .compile (recompilation ["a", "missing"])⟩ ∧
      Invocation.ofArguments recompiled.environment ["compile", "full", "-o", "out.js"] =
        .ok ⟨"auto", "warn", .compile (recompilation ["full"])⟩ ∧
      (∃ text, (recompilation ["a"]).Yields recompiled.now recompiled.files text ∧
        (recompilation ["a"]).Delivered recompiled.files text
          (runProgram recompiled ["compile", "a", "-o", "out.js"]).output
          (runProgram recompiled ["compile", "a", "-o", "out.js"]).files) ∧
      (runProgram recompiled ["compile", "a", "missing", "-o", "out.js"]).status = .failure ∧
      (runProgram recompiled ["compile", "a", "missing", "-o", "out.js"]).files =
        recompiled.files ∧
      (runProgram recompiled ["compile", "full", "-o", "out.js"]).status = .aborted ∧
      (runProgram recompiled ["compile", "full", "-o", "out.js"]).files = recompiled.files := by
  have hgood : Invocation.ofArguments recompiled.environment ["compile", "a", "-o", "out.js"] =
      .ok ⟨"auto", "warn", .compile (recompilation ["a"])⟩ := by
    cbv
  have hbad :
      Invocation.ofArguments recompiled.environment ["compile", "a", "missing", "-o", "out.js"] =
        .ok ⟨"auto", "warn", .compile (recompilation ["a", "missing"])⟩ := by
    cbv
  have hfull : Invocation.ofArguments recompiled.environment ["compile", "full", "-o", "out.js"] =
      .ok ⟨"auto", "warn", .compile (recompilation ["full"])⟩ := by
    cbv
  have hexpand : Expands recompiled.files "a" ["a"] :=
    ⟨[], by rw [expandPath, if_neg (by decide)]⟩
  have hexpandMissing : Expands recompiled.files "missing" ["missing"] :=
    ⟨[], by rw [expandPath, if_neg (by decide)]⟩
  have hexpandFull : Expands recompiled.files "full" ["full"] :=
    ⟨[], by rw [expandPath, if_neg (by decide)]⟩
  have hold : recompiled.files.node? ["out.js"] = some (.file "old".toUTF8) := by
    cbv
  have hwrite : ∀ text, ∃ after, recompiled.files.writeText "out.js" text = .ok after := by
    intro text
    refine ⟨_, FileTree.writeText_eq_ok_iff.2 ⟨["out.js"], ⟨by cbv, ?_, ?_, by cbv⟩, rfl⟩⟩
    · simp [hold]
    · simp [hold]
  have hread : (Record.ofFile recompiled.files "a").1 =
      .ok [(.string "edit", .record [(.string "template", .string "form")])] := by
    have hfind : recompiled.files.find "a" = .ok (.file "edit: {template: form}\n".toUTF8) := by
      cbv
    exact Record.ofFile_of_find hfind (by decide +kernel)
  have hreadFull : (Record.ofFile recompiled.files "full").1 =
      .ok [(.string "all",
          .record [(.string "metas", .record [(.int 18446744073709551614, .string "a")])]),
        (.string "edit", .record [(.string "metas", .list [.string "b"])])] := by
    have hfind : recompiled.files.find "full" =
        .ok (.file "all: {metas: {18446744073709551614: a}}\nedit: {metas: [b]}\n".toUTF8) := by
      cbv
    exact Record.ofFile_of_find hfind (by decide +kernel)
  have hmissing : ∀ entries, ¬ HoldsRecord recompiled.files "missing" entries := by
    rintro entries ⟨text, v, hread, -⟩
    have hnone : recompiled.files.find "missing" = .error .notFound := by
      cbv
    rw [FileTree.readText, hnone] at hread
    cases hread
  have hcompiles := compiles_recompilation hexpand hread
  have hnot : ¬ (recompilation ["a"]).RunsOver recompiled.now recompiled.files := by
    rintro ⟨other, hother, hover⟩
    rw [← hcompiles.eq hother] at hover
    exact absurd hover (by decide +kernel)
  have hsound : ¬ (recompilation ["a"]).Fault recompiled.now recompiled.files :=
    fun hfault => hfault.not_yields _ ⟨_, _, hcompiles, rfl, rfl⟩
  have hfault : (recompilation ["a", "missing"]).Fault recompiled.now recompiled.files :=
    .file (.cons hexpand (.cons hexpandMissing .nil)) (by simp) hmissing
  have hnotMissing :
      ¬ (recompilation ["a", "missing"]).RunsOver recompiled.now recompiled.files := by
    rintro ⟨other, hother, -⟩
    exact hfault.not_yields _ ⟨other, _, hother, rfl, rfl⟩
  have hover : (recompilation ["full"]).RunsOver recompiled.now recompiled.files :=
    ⟨_, compiles_recompilation hexpandFull hreadFull, by decide +kernel⟩
  have hfirst := (runProgram_compile recompiled ["compile", "a", "-o", "out.js"]).2 _ _ hgood rfl
    (fun path text hpath _ => Option.some.inj hpath ▸ hwrite text)
  have hsecond := (runProgram_compile recompiled ["compile", "a", "missing", "-o", "out.js"]).2
    _ _ hbad rfl (fun path text hpath _ => Option.some.inj hpath ▸ hwrite text)
  have hthird := (runProgram_compile recompiled ["compile", "full", "-o", "out.js"]).2 _ _ hfull
    rfl (fun path text hpath _ => Option.some.inj hpath ▸ hwrite text)
  obtain ⟨text, hyields, -, -, hdelivered⟩ := (hfirst.2 hnot).2 hsound
  obtain ⟨hstatus, -, hfiles⟩ := (hsecond.2 hnotMissing).1 hfault
  obtain ⟨haborted, -, hkept⟩ := hthird.1 hover
  exact ⟨hgood, hbad, hfull, ⟨text, hyields, hdelivered⟩, hstatus, hfiles, haborted, hkept⟩

end Run

end CompileOptions

end ViewLayers
