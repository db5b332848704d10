import Toolchain.Proofs.Probe.Recording

/-!
# How a probe goes

A probe has many ways to end: there may be nothing to run, the environment may not be
activated, the command may not run, or it prints something, whatever its exit code. In each
of them the runner is called at most once, and only in the environment of the activation; and
in each of them the process is left as it was found.

  * `Scoped` — how a command goes that is run in the environment of a compiler.
  * `Course` — how a probe goes: its answer and its calls, the first one first.
  * `Session.Restored` — the environment and the scopes are as before.

## Main statements

  * `restored_output`, `restored_implicit`, `restored_all` — a probe leaves no trace in the
    process.
  * `scoped_runScoped`, `course_output` — what is answered, and what is called for it.
  * `Course.of_ran_mem` — the only command that a probe runs.
  * `probe_course` — both, for a probe, for the directories that it finds, and for all of them.
-/

namespace Toolchain

variable {σ : Type}

open Session

/-! ## Leaving no trace -/

/-- The environment, the count of scopes and the open scopes are as before. -/
structure Session.Restored (s t : Session σ) : Prop where
  env : t.env = s.env
  depth : t.depth = s.depth
  scopes : t.scopes = s.scopes

namespace Probe

/-- Running a command touches the log and what is outside the process alone. -/
theorem restored_runCommand (w : Surroundings σ) (c : Compiler) (command : Command)
    (s : Session σ) : Restored s (runCommand w c command s).2 := by
  have hannounced : Restored s (announced w command s) := by
    unfold announced
    split
    · exact ⟨rfl, rfl, rfl⟩
    · exact ⟨rfl, rfl, rfl⟩
  rw [runCommand_eq]
  rcases w.runner.run command s.env s.outside with ⟨message | o, outside⟩
  · exact ⟨hannounced.env, hannounced.depth, hannounced.scopes⟩
  · exact ⟨hannounced.env, hannounced.depth, hannounced.scopes⟩

theorem runScoped_of_error {w : Surroundings σ} {c : Compiler} {s t : Session σ}
    {e : CompilerError} (h : c.activation.enter w.loader s = (.error e, t)) (command : Command) :
    runScoped w c command s = (.error e, t) := by
  unfold runScoped
  rw [h]

theorem runScoped_of_ok {w : Surroundings σ} {c : Compiler} {s t : Session σ} {guard : Guard}
    (h : c.activation.enter w.loader s = (.ok guard, t)) (command : Command) :
    runScoped w c command s =
      (.ok (runCommand w c command t).1, (runCommand w c command t).2.leave guard) := by
  unfold runScoped
  rw [h]

/-- The scope in which a command runs is closed again, and one that cannot be opened leaves
nothing. -/
theorem restored_runScoped (w : Surroundings σ) (c : Compiler) (command : Command)
    (s : Session σ) : Restored s (runScoped w c command s).2 := by
  rcases henter : c.activation.enter w.loader s with ⟨e | guard, t⟩
  · obtain ⟨henv, hdepth, hscopes⟩ := Activation.enter_error henter
    rw [runScoped_of_error henter]
    exact ⟨henv, hdepth, hscopes⟩
  · obtain ⟨rfl, hdepth, hscopes⟩ := Activation.enter_ok henter
    have hrun := restored_runCommand w c command t
    rw [runScoped_of_ok henter]
    refine ⟨env_leave _ s.enter.1, ?_, hrun.scopes.trans hscopes⟩
    -- the scope was counted when it was opened
    show (runCommand w c command t).2.depth - 1 = s.depth
    rw [hrun.depth, hdepth]
    rfl

/-- A probe leaves the process as it was, however it ends. -/
theorem restored_output (w : Surroundings σ) (timeout : Nat) (c : Compiler) (s : Session σ) :
    Restored s (output w timeout c s).2 := by
  unfold output
  rcases role? c with _ | ⟨r, program⟩
  · exact ⟨rfl, rfl, rfl⟩
  rcases c.verboseFlag with _ | flag
  · exact ⟨rfl, rfl, rfl⟩
  dsimp only
  rcases w.prepare (sourceName r) dummySource s.env s.outside with ⟨message | dir, outside⟩
  · exact ⟨rfl, rfl, rfl⟩
  · have hscoped := restored_runScoped w c (command c r program flag dir timeout)
      { s with outside := outside }
    exact ⟨hscoped.env, hscoped.depth, hscoped.scopes⟩

/-- The directories in what was printed: none where nothing was. -/
def dirsIn (w : Surroundings σ) (c : Compiler) (s : Session σ) : Option String → List Path
  | none => []
  | some printed => implicitDirs (w.files s.outside) (w.cwd s.outside) c printed w.glob

/-- Where discovery is turned off, nothing happens. -/
theorem implicit_of_off {c : Compiler} (h : c.implicitRpaths = some false)
    (w : Surroundings σ) (timeout : Nat) (s : Session σ) :
    implicit w timeout c s = (.ok [], s) := by
  have hoff : c.discovers = false := by rw [Compiler.discovers, h]; rfl
  unfold implicit
  rw [hoff]
  rfl

/-- Elsewhere the directories are those in what a probe prints, and all that is added is a
log line. -/
theorem implicit_of_on {c : Compiler} (h : c.implicitRpaths ≠ some false)
    (w : Surroundings σ) (timeout : Nat) (s : Session σ) :
    ∃ log, implicit w timeout c s =
      ((output w timeout c s).1.map (dirsIn w c (output w timeout c s).2),
        { (output w timeout c s).2 with log }) := by
  have hon : c.discovers = true := by
    unfold Compiler.discovers
    cases hc : c.implicitRpaths with
    | none => rfl
    | some choice =>
      cases choice with
      | true => rfl
      | false => exact absurd hc h
  unfold implicit
  rw [hon]
  rcases output w timeout c s with ⟨e | _ | printed, t⟩
  · exact ⟨t.log, rfl⟩
  · exact ⟨t.log, rfl⟩
  · exact ⟨_, rfl⟩

theorem all_eq (w : Surroundings σ) (timeout : Nat) (c : Compiler) (s : Session σ) :
    all w timeout c s =
      ((implicit w timeout c s).1.map (allDirs c), (implicit w timeout c s).2) := by
  unfold all
  rcases implicit w timeout c s with ⟨e | dirs, t⟩
  · rfl
  · rfl

theorem restored_implicit (w : Surroundings σ) (timeout : Nat) (c : Compiler) (s : Session σ) :
    Restored s (implicit w timeout c s).2 := by
  by_cases hoff : c.implicitRpaths = some false
  · rw [implicit_of_off hoff]
    exact ⟨rfl, rfl, rfl⟩
  · obtain ⟨log, himplicit⟩ := implicit_of_on hoff w timeout s
    have houtput := restored_output w timeout c s
    rw [himplicit]
    exact ⟨houtput.env, houtput.depth, houtput.scopes⟩

theorem restored_all (w : Surroundings σ) (timeout : Nat) (c : Compiler) (s : Session σ) :
    Restored s (all w timeout c s).2 := by
  rw [all_eq]
  exact restored_implicit w timeout c s

/-! ## Answers and calls -/

/-- How a command goes that is run in the environment of a compiler: what is answered, and
which calls are made. The calls of the activation come first; then there is one call of the
runner, in the environment that the activation has made, unless the activation fails. -/
inductive Scoped (w : Surroundings σ) (c : Compiler) (command : Command) (s : Session σ) :
    Except CompilerError (Option String) → List Call → Prop where
  | notActivated {e : CompilerError} {t : Session σ}
      (failed : c.activation.enter w.loader s = (.error e, t)) :
      Scoped w c command s (.error e) (c.activation.calls w.loader s)
  | notRun {guard : Guard} {t : Session σ} {message : String}
      (active : c.activation.enter w.loader s = (.ok guard, t))
      (answer : (w.runner.run command t.env t.outside).1 = .error message) :
      Scoped w c command s (.ok none) (c.activation.calls w.loader s ++ [.ran command t.env])
  | printed {guard : Guard} {t : Session σ} {o : CommandOutput}
      (active : c.activation.enter w.loader s = (.ok guard, t))
      (answer : (w.runner.run command t.env t.outside).1 = .ok o) :
      Scoped w c command s (.ok (some (o.stdout ++ o.stderr)))
        (c.activation.calls w.loader s ++ [.ran command t.env])

/-- The executable that is probed: the C compiler if there is one, and the C++ compiler if
not. -/
def Chosen (c : Compiler) (r : Role) (program : Path) : Prop :=
  c.paths.cc = some program ∧ r = .cc ∨
    c.paths.cc = none ∧ c.paths.cxx = some program ∧ r = .cxx

/-- How a probe goes. Nothing is called where there is no executable or no flag that shows
the link line, or no place for the small program. -/
inductive Course (w : Surroundings σ) (timeout : Nat) (c : Compiler) (s : Session σ) :
    Except CompilerError (Option String) → List Call → Prop where
  | nothingToRun
      (lacking : c.paths.cc = none ∧ c.paths.cxx = none ∨ c.verboseFlag = none) :
      Course w timeout c s (.ok none) []
  | noPlace {r : Role} {program : Path} {flag message : String} {outside : σ}
      (chosen : Chosen c r program) (verbose : c.verboseFlag = some flag)
      (failed : w.prepare (sourceName r) dummySource s.env s.outside =
        (.error message, outside)) :
      Course w timeout c s (.ok none) []
  | scoped {r : Role} {program : Path} {flag : String} {dir : Path} {outside : σ}
      {answer : Except CompilerError (Option String)} {calls : List Call}
      (chosen : Chosen c r program) (verbose : c.verboseFlag = some flag)
      (prepared : w.prepare (sourceName r) dummySource s.env s.outside = (.ok dir, outside))
      (goes : Scoped w c (command c r program flag dir timeout) { s with outside := outside }
        answer calls) :
      Course w timeout c s answer calls

theorem role?_eq_none {c : Compiler} (h : role? c = none) :
    c.paths.cc = none ∧ c.paths.cxx = none := by
  simpa [role?, RolePaths.get] using h

theorem chosen_of_role? {c : Compiler} {r : Role} {program : Path}
    (h : role? c = some (r, program)) : Chosen c r program := by
  cases hcc : c.paths.cc with
  | some p =>
    simp only [role?, RolePaths.get, List.findSome?, hcc, Option.map_some, Option.some.injEq,
      Prod.mk.injEq] at h
    exact .inl ⟨by rw [hcc, h.2], h.1.symm⟩
  | none =>
    cases hcxx : c.paths.cxx with
    | some p =>
      simp only [role?, RolePaths.get, List.findSome?, hcc, hcxx, Option.map_some,
        Option.map_none, Option.some.injEq, Prod.mk.injEq] at h
      exact .inr ⟨hcc, by rw [hcxx, h.2], h.1.symm⟩
    | none => simp [role?, RolePaths.get, List.findSome?, hcc, hcxx] at h

/-- What is answered for a command in a scope of its own, and what is called for it. -/
theorem scoped_runScoped (w : Surroundings σ) (c : Compiler) (command : Command)
    (s : Session σ) :
    Scoped w c command s (runScoped w.recorded c command s.recorded).1
      (runScoped w.recorded c command s.recorded).2.calls := by
  have hseen := Activation.seen_enter c.activation w.loader s.recorded
  rw [unrecorded_recorded] at hseen
  rcases henter : c.activation.enter w.loader.recorded s.recorded with ⟨e | guard, t⟩
  · have hcalls : t.calls = c.activation.calls w.loader s := by
      rw [Activation.calls, henter]
    rw [runScoped_of_error henter, hcalls]
    rw [henter] at hseen
    exact .notActivated hseen.symm
  · have hcalls : t.calls = c.activation.calls w.loader s := by
      rw [Activation.calls, henter]
    rw [henter] at hseen
    have hrun : w.recorded.runner.run command t.env t.outside =
        ((w.runner.run command t.env t.outside.1).1,
          ((w.runner.run command t.env t.outside.1).2, t.calls ++ [.ran command t.env])) := rfl
    rw [runScoped_of_ok henter, runCommand_eq, hrun, hcalls]
    rcases hanswer : w.runner.run command t.env t.outside.1 with ⟨message | o, outside⟩
    · exact .notRun hseen.symm (congrArg Prod.fst hanswer)
    · exact .printed hseen.symm (congrArg Prod.fst hanswer)

/-- What a probe answers, and what is called for it. -/
theorem course_output (w : Surroundings σ) (timeout : Nat) (c : Compiler) (s : Session σ) :
    Course w timeout c s (output w.recorded timeout c s.recorded).1
      (output w.recorded timeout c s.recorded).2.calls := by
  unfold output
  rcases hrole : role? c with _ | ⟨r, program⟩
  · exact .nothingToRun (.inl (role?_eq_none hrole))
  rcases hflag : c.verboseFlag with _ | flag
  · exact .nothingToRun (.inr hflag)
  dsimp only
  have hprepare : w.recorded.prepare (sourceName r) dummySource s.recorded.env
      s.recorded.outside =
      ((w.prepare (sourceName r) dummySource s.env s.outside).1,
        ((w.prepare (sourceName r) dummySource s.env s.outside).2, [])) := rfl
  rw [hprepare]
  rcases hplace : w.prepare (sourceName r) dummySource s.env s.outside with
    ⟨message | dir, outside⟩
  · exact .noPlace (chosen_of_role? hrole) hflag hplace
  · exact .scoped (chosen_of_role? hrole) hflag hplace
      (scoped_runScoped w c (command c r program flag dir timeout)
        { s with outside := outside })

/-! ## The command that is run -/

/-- In a scope, only the command that the scope is for is run: the other calls are of the
loader. -/
theorem Scoped.of_ran_mem {w : Surroundings σ} {c : Compiler} {command : Command}
    {s : Session σ} {answer : Except CompilerError (Option String)} {calls : List Call}
    (h : Scoped w c command s answer calls) {run : Command} {env : Environment}
    (hran : .ran run env ∈ calls) : run = command := by
  have hasks : Call.ran run env ∉ c.activation.calls w.loader s := by
    intro hmem
    cases Activation.isAsk_of_mem_calls hmem
  have hlast : ∀ t : Session σ,
      Call.ran run env ∈ c.activation.calls w.loader s ++ [.ran command t.env] →
        run = command := by
    intro t hmem
    rcases List.mem_append.1 hmem with hask | hone
    · exact absurd hask hasks
    · exact (Call.ran.inj (List.mem_singleton.1 hone)).1
  cases h with
  | notActivated => exact absurd hran hasks
  | notRun => exact hlast _ hran
  | printed => exact hlast _ hran

/-- The only command that a probe runs compiles the small program with the chosen executable,
in the place that was made for it. -/
theorem Course.of_ran_mem {w : Surroundings σ} {timeout : Nat} {c : Compiler} {s : Session σ}
    {answer : Except CompilerError (Option String)} {calls : List Call}
    (h : Course w timeout c s answer calls) {run : Command} {env : Environment}
    (hran : .ran run env ∈ calls) :
    ∃ r program flag dir outside, Chosen c r program ∧ c.verboseFlag = some flag ∧
      w.prepare (sourceName r) dummySource s.env s.outside = (.ok dir, outside) ∧
        run = command c r program flag dir timeout := by
  -- a call was made, so there were an executable, a flag and a place
  rcases h with _ | _ | ⟨chosen, verbose, prepared, goes⟩
  · cases hran
  · cases hran
  · exact ⟨_, _, _, _, _, chosen, verbose, prepared, goes.of_ran_mem hran⟩

/-! ## The whole -/

/-- A probe goes one of the courses above, and recording its calls makes no difference to it.
The program of a command that is run is the C compiler if there is one, and the C++ compiler if
not. An activation calls the loader alone. The directories are those in what the probe prints,
with the same errors and the same calls, and all directories are these after the extra ones;
where discovery is turned off there is no call at all. Whatever happens, the environment, the
count of scopes and the open scopes are afterwards as they were before. -/
theorem probe_course (w : Surroundings σ) (timeout : Nat) (c : Compiler) (s : Session σ) :
    let probed := output w.recorded timeout c s.recorded
    let found := implicit w.recorded timeout c s.recorded
    let whole := all w.recorded timeout c s.recorded
    (output w timeout c s = seen probed ∧ implicit w timeout c s = seen found ∧
      all w timeout c s = seen whole) ∧
    Course w timeout c s probed.1 probed.2.calls ∧
    (∀ run env, .ran run env ∈ probed.2.calls → ∃ r, Chosen c r run.program) ∧
    (∀ t, ∀ call ∈ c.activation.calls w.loader t, call.isAsk = true) ∧
    (c.implicitRpaths = some false →
      found = (.ok [], s.recorded) ∧ whole = (.ok (allDirs c []), s.recorded)) ∧
    (c.implicitRpaths ≠ some false →
      found.1 = probed.1.map (dirsIn w c probed.2.unrecorded) ∧
        whole.1 = found.1.map (allDirs c) ∧
        found.2.calls = probed.2.calls ∧ whole.2.calls = probed.2.calls) ∧
    (Restored s (seen probed).2 ∧ Restored s (seen found).2 ∧ Restored s (seen whole).2) := by
  intro probed found whole
  have hprobed : output w timeout c s = seen probed := (seen_output w timeout c s.recorded).symm
  have hfound : implicit w timeout c s = seen found :=
    (seen_implicit w timeout c s.recorded).symm
  have hwhole : all w timeout c s = seen whole := (seen_all w timeout c s.recorded).symm
  have hall : whole = (found.1.map (allDirs c), found.2) := all_eq w.recorded timeout c s.recorded
  have hcourse : Course w timeout c s probed.1 probed.2.calls := course_output w timeout c s
  refine ⟨⟨hprobed, hfound, hwhole⟩, hcourse, ?_, ?_, ?_, ?_, ?_⟩
  · intro run env hran
    obtain ⟨r, program, flag, dir, outside, hchosen, -, -, rfl⟩ := hcourse.of_ran_mem hran
    exact ⟨r, hchosen⟩
  · intro t call hcall
    exact Activation.isAsk_of_mem_calls hcall
  · intro hoff
    have himplicit : found = (.ok [], s.recorded) :=
      implicit_of_off hoff w.recorded timeout s.recorded
    refine ⟨himplicit, ?_⟩
    rw [hall, himplicit]
    rfl
  · intro hon
    obtain ⟨log, himplicit⟩ := implicit_of_on hon w.recorded timeout s.recorded
    have himplicit : found = (probed.1.map (dirsIn w.recorded c probed.2),
      { probed.2 with log }) := himplicit
    have hdirs : dirsIn w.recorded c probed.2 = dirsIn w c probed.2.unrecorded := by
      funext printed
      cases printed with
      | none => rfl
      | some printed => rfl
    refine ⟨?_, ?_, ?_, ?_⟩
    · rw [himplicit, hdirs]
    · rw [hall]
    · rw [himplicit]
      rfl
    · rw [hall, himplicit]
      rfl
  · rw [← hprobed, ← hfound, ← hwhole]
    exact ⟨restored_output w timeout c s, restored_implicit w timeout c s,
      restored_all w timeout c s⟩

/-- The C++ compiler is run where there is no C compiler, here in an environment that a module
has changed. It fails, but what it printed counts, and the change is gone. -/
theorem probe_course_cxx :
    let w : Surroundings Unit :=
      { loader := fun verb _ _ u =>
          (.ok { changes := if verb = .load then [("STAGE", "2")] else [] }, u)
        runner := { run := fun _ env u => (.ok ⟨some 1, "ld", (env.get? "STAGE").getD "1"⟩, u) }
        prepare := fun _ _ _ u => (.ok ⟨"/tmp/x"⟩, u)
        discard := fun _ u => u, files := fun _ => {}, cwd := fun _ => [] }
    let c : Compiler :=
      { Compiler.new ⟨"gcc", ⟨"13", [13]⟩⟩ "linux" with
        paths := { cxx := some ⟨"g++"⟩, fc := some ⟨"gfortran"⟩ }, modules := ["gcc/13"] }
    let s : Session Unit := .start ∅ ()
    let loaded : Environment := Dict.ofList [("STAGE", "2")]
    ∃ run : Command, run.program = ⟨"g++"⟩ ∧
      (output w.recorded defaultTimeout c s.recorded).2.calls =
        [.asked .display "gcc/13" ∅, .asked .load "gcc/13" ∅, .ran run loaded] ∧
      (output w defaultTimeout c s).1.toOption = some (some "ld2") ∧
      Restored s (output w defaultTimeout c s).2 := by
  intro w c s loaded
  let run : Command := command c .cxx ⟨"g++"⟩ "-v" ⟨"/tmp/x"⟩ defaultTimeout
  have hcalls : (output w.recorded defaultTimeout c s.recorded).2.calls =
      [.asked .display "gcc/13" ∅, .asked .load "gcc/13" ∅, .ran run loaded] := by
    decide +kernel
  obtain ⟨⟨hseen, -, -⟩, -, hprogram, -, -, -, hrestored, -, -⟩ :=
    probe_course w defaultTimeout c s
  refine ⟨run, ?_, hcalls, by decide +kernel, hseen ▸ hrestored⟩
  obtain ⟨r, ⟨hcc, -⟩ | ⟨-, hcxx, -⟩⟩ := hprogram run loaded (by rw [hcalls]; simp)
  · cases hcc
  · exact (Option.some.inj hcxx).symm

end Probe

end Toolchain
