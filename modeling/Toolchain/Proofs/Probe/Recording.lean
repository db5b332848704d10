import Toolchain.Probe
import Toolchain.Proofs.Environment.View

/-!
# Recording the calls of a probe

A loader and a runner can be watched: what is outside the process then also holds the calls
that were made, the first one first. Nothing else changes, so what is shown of the watched
ones, and of how often they are called, holds of those that are not watched.

  * `Call` — a call of the loader or the runner, and the environment that it saw.
  * `Surroundings.recorded` — the surroundings with a record of the calls.
  * `Session.unrecorded` — the session without the record.
  * `seen` — an answer and the session without the record.

## Main statements

  * `seen_output`, `seen_implicit`, `seen_all` — a probe does the same with a record.
  * `Activation.isAsk_of_mem_calls` — an activation calls the loader alone.
-/

namespace Toolchain

variable {σ : Type}

/-- A call of the loader or the runner, with the environment that it saw. -/
inductive Call
  | asked (verb : ModuleVerb) (name : String) (env : Environment)
  | ran (command : Command) (env : Environment)
  deriving DecidableEq

/-- Whether a call was one of the loader. -/
def Call.isAsk : Call → Bool
  | asked .. => true
  | ran .. => false

/-- What is outside a process, and the calls that were made, the first one first. -/
abbrev Recorded (σ : Type) := σ × List Call

/-- A loader whose calls are recorded. -/
def Loader.recorded (loader : Loader σ) : Loader (Recorded σ) := fun verb name env outside =>
  let (answer, rest) := loader verb name env outside.1
  (answer, (rest, outside.2 ++ [.asked verb name env]))

/-- A runner whose calls are recorded. -/
def Runner.recorded (runner : Runner σ) : Runner (Recorded σ) where
  run command env outside :=
    let (answer, rest) := runner.run command env outside.1
    (answer, (rest, outside.2 ++ [.ran command env]))
  announce := runner.announce

/-- Surroundings in which the calls of the loader and the runner are recorded. -/
def Surroundings.recorded (w : Surroundings σ) : Surroundings (Recorded σ) where
  loader := w.loader.recorded
  runner := w.runner.recorded
  prepare fileName source env outside :=
    let (answer, rest) := w.prepare fileName source env outside.1
    (answer, (rest, outside.2))
  discard dir outside := (w.discard dir outside.1, outside.2)
  files outside := w.files outside.1
  cwd outside := w.cwd outside.1
  glob := w.glob

namespace Session

/-- A session whose record is empty. -/
def recorded (s : Session σ) : Session (Recorded σ) := { s with outside := (s.outside, []) }

/-- A session without the record. -/
def unrecorded (s : Session (Recorded σ)) : Session σ := { s with outside := s.outside.1 }

/-- The calls that were made. -/
def calls (s : Session (Recorded σ)) : List Call := s.outside.2

@[simp] theorem unrecorded_recorded (s : Session σ) : s.recorded.unrecorded = s := rfl

end Session

open Session

/-- An answer and the session, as they are without the record. -/
def seen {α : Type} (x : α × Session (Recorded σ)) : α × Session σ := (x.1, x.2.unrecorded)

/-! ## Activations with a record -/

namespace Activation

/-- An activation does the same with a record. -/
theorem seen_enter (a : Activation) (loader : Loader σ) (s : Session (Recorded σ)) :
    seen (a.enter loader.recorded s) = a.enter loader s.unrecorded := by
  have hview : loader.recorded.SeenAs Prod.fst loader := fun _ _ _ _ => rfl
  exact through_enter hview a s

/-! ## Calls of an activation -/

/-- Only calls of the loader are added to the record. -/
def OnlyAsks (s t : Session (Recorded σ)) : Prop :=
  ∃ asks : List Call, t.calls = s.calls ++ asks ∧ ∀ call ∈ asks, call.isAsk = true

theorem keeps_onlyAsks (a : Activation) (loader : Loader σ) :
    a.Keeps loader.recorded OnlyAsks where
  refl s := ⟨[], (List.append_nil _).symm, by simp⟩
  trans := by
    rintro s t u ⟨asks, ht, hasks⟩ ⟨asks', hu, hasks'⟩
    refine ⟨asks ++ asks', by rw [hu, ht, List.append_assoc], ?_⟩
    intro call hcall
    rcases List.mem_append.1 hcall with h | h
    · exact hasks call h
    · exact hasks' call h
  debug s _ := ⟨[], (List.append_nil _).symm, by simp⟩
  ask verb name _ s := ⟨[.asked verb name s.env], rfl, by simp [Call.isAsk]⟩
  change _ s := ⟨[], (List.append_nil _).symm, by simp⟩

/-- The calls that an activation makes, the first one first. -/
def calls (a : Activation) (loader : Loader σ) (s : Session σ) : List Call :=
  (a.enter loader.recorded s.recorded).2.calls

/-- An activation calls the loader alone. -/
theorem isAsk_of_mem_calls {a : Activation} {loader : Loader σ} {s : Session σ} {call : Call}
    (h : call ∈ a.calls loader s) : call.isAsk = true := by
  unfold calls at h
  cases hfault : a.mutation.fault? with
  | some fault =>
    rw [enter_error_of_fault hfault] at h
    cases h
  | none =>
    rw [enter_of_no_fault hfault] at h
    obtain ⟨asks, hcalls, hasks⟩ :=
      (keeps_onlyAsks a loader).loadAll a.modules (a.mutate s.recorded.enter.2)
    -- closing the scope again makes no call, so both ways to end have the same record
    have hmem : call ∈ (a.loadAll loader.recorded a.modules
        (a.mutate s.recorded.enter.2)).2.calls := by
      rcases hload : a.loadAll loader.recorded a.modules (a.mutate s.recorded.enter.2) with
        ⟨e | u, t⟩
      · rw [hload] at h
        exact h
      · rw [hload] at h
        exact h
    rw [hcalls] at hmem
    exact hasks call hmem

end Activation

/-! ## Probes with a record -/

namespace Probe

/-- The session when a command is about to run: the runner may have announced it. -/
def announced (w : Surroundings σ) (command : Command) (s : Session σ) : Session σ :=
  match w.runner.announce command with
  | some text => s.debug text
  | none => s

/-- What is made of the runner's answer. -/
def received (c : Compiler) (command : Command) (s : Session σ) :
    Except String CommandOutput × σ → Option String × Session σ
  | (.error message, outside) =>
    (none, { s with outside }.debug (c.label ++ ": probe failed: " ++ message))
  | (.ok o, outside) =>
    (some o.combined, { s with outside, log := failureNote c command o ++ s.log })

/-- The session after the directory of the small program is taken away. -/
def discarded {α : Type} (w : Surroundings σ) (dir : Path) (x : α × Session σ) :
    α × Session σ :=
  (x.1, { x.2 with outside := w.discard dir x.2.outside })

/-- Running a command is one call of the runner, in the session's environment. -/
theorem runCommand_eq (w : Surroundings σ) (c : Compiler) (command : Command) (s : Session σ) :
    runCommand w c command s =
      received c command (announced w command s) (w.runner.run command s.env s.outside) := by
  unfold runCommand announced
  cases w.runner.announce command with
  | none =>
    dsimp only
    rcases w.runner.run command s.env s.outside with ⟨message | o, outside⟩
    · rfl
    · rfl
  | some text =>
    have henv : (s.debug text).env = s.env := rfl
    have houtside : (s.debug text).outside = s.outside := rfl
    dsimp only
    rw [henv, houtside]
    rcases w.runner.run command s.env s.outside with ⟨message | o, outside⟩
    · rfl
    · rfl

theorem seen_announced (w : Surroundings σ) (command : Command) (s : Session (Recorded σ)) :
    (announced w.recorded command s).unrecorded = announced w command s.unrecorded := by
  show (match w.runner.announce command with
    | some text => s.debug text
    | none => s).unrecorded = match w.runner.announce command with
    | some text => s.unrecorded.debug text
    | none => s.unrecorded
  cases w.runner.announce command with
  | none => rfl
  | some text => rfl

theorem seen_runCommand (w : Surroundings σ) (c : Compiler) (command : Command)
    (s : Session (Recorded σ)) :
    seen (runCommand w.recorded c command s) = runCommand w c command s.unrecorded := by
  rw [runCommand_eq, runCommand_eq, ← seen_announced]
  have hrun : w.recorded.runner.run command s.env s.outside =
      ((w.runner.run command s.env s.outside.1).1,
        ((w.runner.run command s.env s.outside.1).2, s.calls ++ [.ran command s.env])) := rfl
  have hplain : w.runner.run command s.unrecorded.env s.unrecorded.outside =
      w.runner.run command s.env s.outside.1 := rfl
  rw [hrun, hplain]
  rcases w.runner.run command s.env s.outside.1 with ⟨message | o, outside⟩
  · rfl
  · rfl

theorem seen_runScoped (w : Surroundings σ) (c : Compiler) (command : Command)
    (s : Session (Recorded σ)) :
    seen (runScoped w.recorded c command s) = runScoped w c command s.unrecorded := by
  unfold runScoped
  rw [← Activation.seen_enter]
  have hloader : w.recorded.loader = w.loader.recorded := rfl
  rw [hloader]
  rcases c.activation.enter w.loader.recorded s with ⟨e | guard, t⟩
  · rfl
  · have hrun := seen_runCommand w c command t
    show seen (Except.ok (runCommand w.recorded c command t).1,
        (runCommand w.recorded c command t).2.leave guard) =
      (Except.ok (runCommand w c command t.unrecorded).1,
        (runCommand w c command t.unrecorded).2.leave guard)
    rw [← hrun]
    rfl

theorem seen_discarded {α : Type} (w : Surroundings σ) (dir : Path)
    (x : α × Session (Recorded σ)) :
    seen (discarded w.recorded dir x) = discarded w dir (seen x) := rfl

/-- A probe prints the same with a record. -/
theorem seen_output (w : Surroundings σ) (timeout : Nat) (c : Compiler)
    (s : Session (Recorded σ)) :
    seen (output w.recorded timeout c s) = output w timeout c s.unrecorded := by
  unfold output
  rcases role? c with _ | ⟨r, program⟩
  · rfl
  rcases c.verboseFlag with _ | flag
  · rfl
  dsimp only
  have hprepare : w.recorded.prepare (sourceName r) dummySource s.env s.outside =
      ((w.prepare (sourceName r) dummySource s.env s.outside.1).1,
        ((w.prepare (sourceName r) dummySource s.env s.outside.1).2, s.calls)) := rfl
  have hplain : w.prepare (sourceName r) dummySource s.unrecorded.env s.unrecorded.outside =
      w.prepare (sourceName r) dummySource s.env s.outside.1 := rfl
  rw [hprepare, hplain]
  rcases w.prepare (sourceName r) dummySource s.env s.outside.1 with ⟨message | dir, outside⟩
  · rfl
  · have hscoped := seen_runScoped w c (command c r program flag dir timeout)
      { s with outside := (outside, s.calls) }
    exact (seen_discarded w dir _).trans (congrArg (discarded w dir) hscoped)

/-- A probe finds the same directories with a record. -/
theorem seen_implicit (w : Surroundings σ) (timeout : Nat) (c : Compiler)
    (s : Session (Recorded σ)) :
    seen (implicit w.recorded timeout c s) = implicit w timeout c s.unrecorded := by
  unfold implicit
  split
  · rw [← seen_output]
    rcases output w.recorded timeout c s with ⟨e | _ | printed, t⟩
    · rfl
    · rfl
    · rfl
  · rfl

theorem seen_all (w : Surroundings σ) (timeout : Nat) (c : Compiler)
    (s : Session (Recorded σ)) :
    seen (all w.recorded timeout c s) = all w timeout c s.unrecorded := by
  unfold all
  rw [← seen_implicit]
  rcases implicit w.recorded timeout c s with ⟨e | dirs, t⟩
  · rfl
  · rfl

end Probe

end Toolchain
