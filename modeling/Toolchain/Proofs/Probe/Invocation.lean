import Toolchain.Proofs.Flag.Invocation
import Toolchain.Proofs.Flag.Reachable
import Toolchain.Proofs.Probe.Course

/-!
# The command of a probe

A probe should find what a real link of the same role finds, so its command has the flags of
such an invocation. The probe names the categories itself, where an invocation takes those
that apply to the role; both come to the same, but for the libraries, which a small program
does not need.

## Main statements

  * `Compiler.invocationFlags_eq` — an invocation has the words of a probe, then the libraries.
  * `probe_agrees_with_invocation` — the arguments of this command, and those of an invocation.
-/

namespace Toolchain

variable {σ : Type}

/-! ## The categories of a role -/

/-- The categories that apply to a role are those that a probe names, then the libraries. -/
theorem Category.filter_appliesTo (r : Role) :
    all.filter (·.appliesTo r) = [r.compileCategory, cppflags, ldflags] ++ [ldlibs] := by
  cases r <;> decide

/-- The words of a probe are those of the categories that apply to the role, without the
libraries. -/
theorem Probe.flagWords_eq (c : Compiler) (r : Role) :
    flagWords c r =
      (Category.all.filter fun category => category.appliesTo r ∧ category ≠ .ldlibs).flatMap
        fun category => arguments (c.flags.get category) := by
  have hall : (Category.all.filter fun category => category.appliesTo r ∧ category ≠ .ldlibs) =
      [r.compileCategory, .cppflags, .ldflags] := by
    cases r <;> decide
  rw [hall]
  rfl

/-- An invocation has the words of a probe and then those of the libraries. -/
theorem Compiler.invocationFlags_eq {c : Compiler} (h : c.flags.Normal) (r : Role) :
    c.invocationFlags r = Probe.flagWords c r ++ arguments (c.flags.get .ldlibs) := by
  rw [invocationFlags, FlagSet.forRole_eq h, arguments_flatMap, Category.filter_appliesTo,
    List.flatMap_append, List.flatMap_singleton]
  rfl

namespace Probe

/-- Whenever a probe calls the runner, the arguments are some words, the flag that shows the
link line, the source file, and `-o` with the output file; and the words are those that an
invocation of the role has before the words of the libraries. So they are the words of the
categories that apply to the role, in category order, without the libraries. -/
theorem probe_agrees_with_invocation (w : Surroundings σ) (timeout : Nat) {c : Compiler}
    (h : c.flags.Reachable) (s : Session σ) {run : Command} {env : Environment}
    (hran : .ran run env ∈ (output w.recorded timeout c s.recorded).2.calls) :
    ∃ r program flag dir outside words, Chosen c r program ∧ c.verboseFlag = some flag ∧
      w.prepare (sourceName r) dummySource s.env s.outside = (.ok dir, outside) ∧
      run.program = program ∧
      run.arguments = words ++
        [flag, (dir.join ⟨if r = .cc then "main.c" else "main.cc"⟩).text,
          "-o", (dir.join ⟨"output"⟩).text] ∧
      c.invocationFlags r = words ++ arguments (c.flags.get .ldlibs) ∧
      words =
        (Category.all.filter fun category => category.appliesTo r ∧ category ≠ .ldlibs).flatMap
          fun category => arguments (c.flags.get category) := by
  obtain ⟨r, program, flag, dir, outside, chosen, verbose, prepared, rfl⟩ :=
    (course_output w timeout c s).of_ran_mem hran
  have hname : sourceName r = if r = .cc then "main.c" else "main.cc" := by
    cases r <;> rfl
  refine ⟨r, program, flag, dir, outside, flagWords c r, chosen, verbose, prepared, rfl, ?_,
    Compiler.invocationFlags_eq h.normal r, flagWords_eq c r⟩
  rw [← hname]
  rfl

/-- A C++ compiler with flags for every stage: an atom of two words, a blank one, the flags of
another language, and the libraries. -/
theorem probe_agrees_with_invocation_cxx :
    let w : Surroundings Unit :=
      { loader := fun _ _ _ u => (.ok { changes := [] }, u)
        runner := { run := fun _ _ u => (.ok ⟨some 0, "", "ld"⟩, u) }
        prepare := fun _ _ _ u => (.ok ⟨"/tmp/x"⟩, u)
        discard := fun _ u => u, files := fun _ => {}, cwd := fun _ => [] }
    let c : Compiler :=
      { Compiler.new ⟨"gcc", ⟨"13", [13]⟩⟩ "linux" with
        paths := { cxx := some ⟨"g++"⟩, f77 := some ⟨"gfortran"⟩ }
        flags := FlagSet.empty.editAll [.set .ldlibs ["-lm"], .set .cflags ["-std=c99"],
          .set .ldflags ["-L /opt", " "], .set .cxxflags ["-g -O2"], .set .fflags ["-fopenmp"]] }
    let run : Command :=
      { program := ⟨"g++"⟩
        arguments := ["-g", "-O2", "-L", "/opt", "-v", "/tmp/x/main.cc", "-o", "/tmp/x/output"]
        timeout := some defaultTimeout }
    .ran run ∅ ∈ (output w.recorded defaultTimeout c (Session.start ∅ ()).recorded).2.calls ∧
      ∃ words, run.arguments = words ++ ["-v", "/tmp/x/main.cc", "-o", "/tmp/x/output"] ∧
        c.invocationFlags .cxx = words ++ ["-lm"] := by
  intro w c run
  have hran : .ran run ∅ ∈
      (output w.recorded defaultTimeout c (Session.start ∅ ()).recorded).2.calls := by
    decide +kernel
  obtain ⟨r, program, flag, dir, outside, words, hchosen, hflag, hdir, -, hrun, hflags, -⟩ :=
    probe_agrees_with_invocation w defaultTimeout (FlagSet.Reachable.empty.editAll _)
      (Session.start ∅ ()) hran
  obtain ⟨hcc, -⟩ | ⟨-, -, rfl⟩ := hchosen
  · cases hcc
  · obtain rfl : "-v" = flag := Option.some.inj hflag
    obtain rfl : ⟨"/tmp/x"⟩ = dir := Except.ok.inj (congrArg Prod.fst hdir)
    have hfiles : [(Path.join ⟨"/tmp/x"⟩ ⟨"main.cc"⟩).text, "-o",
        (Path.join ⟨"/tmp/x"⟩ ⟨"output"⟩).text] = ["/tmp/x/main.cc", "-o", "/tmp/x/output"] := by
      decide +kernel
    have hlibs : arguments (c.flags.get .ldlibs) = ["-lm"] := by decide +kernel
    have harguments := hrun.trans (congrArg (words ++ "-v" :: ·) hfiles)
    exact ⟨hran, words, harguments, hflags.trans (congrArg (words ++ ·) hlibs)⟩

end Probe

end Toolchain
