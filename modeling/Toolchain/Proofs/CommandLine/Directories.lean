import Toolchain.Proofs.CommandLine.Acting
import Toolchain.Proofs.Path.Unique
import Toolchain.Proofs.Probe.Course

/-!
# The directories for a link

The directories for a link are the extra ones of a compiler and those that a probe finds. The
library joins them to one list without repetitions, and the command line prints them one by one,
leaving out what it has printed before. Both give the same ordered union.

  * `CommandLine.AsksFor` — a command line that asks for the directories of a compiler.

## Main statements

  * `Probe.sorted_implicit` — what a probe finds is a set.
  * `shows_printEach` — what the loop of the command line prints.
  * `shows_printRpaths`, `run_of_asksFor` — what is printed for a probe, and by a whole run.
  * `directories_ordered_union` — the law for the library and for the program.
-/

namespace Toolchain

variable {σ : Type}

namespace Probe

/-- The directories that a probe finds are in path order, each of them once. -/
theorem sorted_implicit {w : Surroundings σ} {timeout : Nat} {c : Compiler} {s : Session σ}
    {dirs : List Path} (h : (implicit w timeout c s).1 = .ok dirs) :
    dirs.Pairwise Path.Before := by
  by_cases hoff : c.implicitRpaths = some false
  · rw [implicit_of_off hoff] at h
    obtain rfl : [] = dirs := Except.ok.inj h
    exact List.Pairwise.nil
  · obtain ⟨log, himplicit⟩ := implicit_of_on hoff w timeout s
    have hmap : (output w timeout c s).1.map (dirsIn w c (output w timeout c s).2) = .ok dirs := by
      rw [himplicit] at h
      exact h
    rcases houtput : output w timeout c s with ⟨e | printed, t⟩
    · rw [houtput] at hmap
      cases hmap
    · rw [houtput] at hmap
      obtain rfl : dirsIn w c t printed = dirs := Except.ok.inj hmap
      cases printed with
      | none => exact List.Pairwise.nil
      | some printed => exact Path.collect_sorted _

end Probe

namespace CommandLine

open Console

/-! ## The loop -/

/-- The loop goes through a list of paths. What it has printed `before` are the paths that are
kept of those, and what it prints of the others are those that are kept in addition. -/
theorem shows_printEach_unique (before ps : List Path) :
    ∃ added, Path.unique (before ++ ps) = Path.unique before ++ added ∧
      Shows (printEach (Path.unique before) ps) (.ok ()) (added.map Path.text) := by
  induction ps generalizing before with
  | nil =>
    refine ⟨[], ?_, shows_pure ()⟩
    rw [List.append_nil, List.append_nil]
  | cons p rest ih =>
    obtain ⟨added, hunique, hshows⟩ := ih (before ++ [p])
    have happend : before ++ [p] ++ rest = before ++ p :: rest := by simp
    rw [happend, Path.unique_concat] at hunique
    rw [Path.unique_concat] at hshows
    rw [hunique, printEach]
    unfold Path.fresh at hshows ⊢
    split
    · next hany =>
      rw [if_pos hany, List.append_nil] at hshows
      exact ⟨added, by rw [List.append_nil], hshows⟩
    · next hany =>
      rw [if_neg hany] at hshows
      exact ⟨p :: added, List.append_assoc _ _ _, (shows_sayAll [p.text]).bind hshows⟩

/-- Each path is printed once, where it comes first. -/
theorem shows_printEach (ps : List Path) :
    Shows (printEach [] ps) (.ok ()) ((Path.unique ps).map Path.text) := by
  obtain ⟨added, hunique, hshows⟩ := shows_printEach_unique [] ps
  obtain rfl : Path.unique ps = added := hunique
  exact hshows

/-! ## The command -/

theorem shows_printRpaths {w : Surroundings σ} {c : Compiler} {seconds : Nat} {s : Session σ}
    {dirs : List Path} (h : (Probe.implicit w (seconds * 1000) c s).1 = .ok dirs)
    (implicitOnly : Bool) :
    Shows (printRpaths w c implicitOnly seconds s) (.ok ())
      ((Path.unique ((if implicitOnly then [] else c.extraRpaths) ++ dirs)).map Path.text) := by
  unfold printRpaths
  rcases hprobe : Probe.implicit w (seconds * 1000) c s with ⟨answer, t⟩
  rw [hprobe] at h
  obtain rfl : answer = .ok dirs := h
  have hlog := shows_modify fun console => stdout_noteAll console t.log.reverse
  have hnote := shows_modify fun console =>
    stdout_debug console (c.label ++ ": " ++ toString dirs.length ++ " implicit rpaths")
  exact hlog.bind_quiet ((shows_orDiagnose_ok dirs).bind_quiet
    (hnote.bind_quiet (shows_printEach _)))

theorem shows_printRpaths_error {w : Surroundings σ} {c : Compiler} {seconds : Nat}
    {s : Session σ} {e : CompilerError}
    (h : (Probe.implicit w (seconds * 1000) c s).1 = .error e) (implicitOnly : Bool) :
    Shows (printRpaths w c implicitOnly seconds s) (.error (.diagnosed e.diagnostic)) [] := by
  unfold printRpaths
  rcases hprobe : Probe.implicit w (seconds * 1000) c s with ⟨answer, t⟩
  rw [hprobe] at h
  obtain rfl : answer = .error e := h
  have hlog := shows_modify fun console => stdout_noteAll console t.log.reverse
  exact hlog.bind_quiet ((shows_orDiagnose_error e).bind_error _)

/-- A command line asks for the directories of a compiler from the file in effect. -/
def AsksFor (m : Machine) (env : Environment) (args : List String) (c : Compiler)
    (implicitOnly : Bool) (seconds : Nat) : Prop :=
  ∃ request query compilers, Request.read env args = .ok request ∧
    request.action = .rpaths query implicitOnly seconds ∧
    loaded m env request.config = .ok compilers ∧ chosen compilers query = .ok c

/-- Such a run prints what is printed for a probe of the compiler on the machine. -/
theorem run_of_asksFor {m : Machine} {env : Environment} {args : List String} {c : Compiler}
    {implicitOnly : Bool} {seconds : Nat} (h : AsksFor m env args c implicitOnly seconds)
    {answer : Except Failure Unit} {lines : List String}
    (hshows : Shows (printRpaths Machine.surroundings c implicitOnly seconds (.start env m))
      answer lines) (terminal : Bool) :
    (run m env terminal args).code = (if answer = .ok () then 0 else 1) ∧
      (run m env terminal args).console.stdout = written lines := by
  obtain ⟨request, query, compilers, hread, haction, hloaded, hchosen⟩ := h
  refine run_of_shows hread ?_ terminal
  have hload := shows_loadCompilers m env request.config
  have hselect := shows_select compilers query
  rw [hloaded] at hload
  rw [hchosen] at hselect
  unfold perform
  rw [haction]
  exact hload.bind_quiet (hselect.bind_quiet hshows)

/-- The directories for a link are the ordered union of the extra directories of a compiler and
of those that a probe finds. Whatever the probe's surroundings are, if it finds the same
directories, the command prints this union, or what the probe has found, as it is told; so does
a run of the program that asks for this. If the environment cannot be activated, there is the
same error everywhere, and nothing is printed. -/
theorem directories_ordered_union (w : Surroundings σ) (timeout : Nat) (c : Compiler)
    (s : Session σ) :
    (∀ e t, Probe.implicit w timeout c s = (.error e, t) →
      Probe.all w timeout c s = (.error e, t) ∧
        ∀ {τ : Type} (v : Surroundings τ) (implicitOnly : Bool) (seconds : Nat) (u : Session τ),
          (Probe.implicit v (seconds * 1000) c u).1 = .error e →
            Shows (printRpaths v c implicitOnly seconds u) (.error (.diagnosed e.diagnostic))
              []) ∧
    (∀ dirs t, Probe.implicit w timeout c s = (.ok dirs, t) →
      dirs.Pairwise Path.Before ∧
      ∃ whole, Probe.all w timeout c s = (.ok whole, t) ∧
        Path.OrderedUnion c.extraRpaths dirs whole ∧
        (∀ {τ : Type} (v : Surroundings τ) (seconds : Nat) (u : Session τ),
          (Probe.implicit v (seconds * 1000) c u).1 = .ok dirs →
            Shows (printRpaths v c false seconds u) (.ok ()) (whole.map Path.text) ∧
              Shows (printRpaths v c true seconds u) (.ok ()) (dirs.map Path.text)) ∧
        (∀ m env terminal args implicitOnly seconds, AsksFor m env args c implicitOnly seconds →
          (Probe.implicit Machine.surroundings (seconds * 1000) c (.start env m)).1 =
            .ok dirs →
          (run m env terminal args).code = 0 ∧
            (run m env terminal args).console.stdout =
              written ((if implicitOnly then dirs else whole).map Path.text))) := by
  constructor
  · intro e t h
    refine ⟨?_, fun v implicitOnly seconds u hv => shows_printRpaths_error hv implicitOnly⟩
    rw [Probe.all_eq, h]
    rfl
  · intro dirs t h
    have hsorted : dirs.Pairwise Path.Before := Probe.sorted_implicit (congrArg Prod.fst h)
    have hdirs : Path.unique dirs = dirs :=
      Path.unique_of_distinct (Path.distinct_of_sorted hsorted)
    refine ⟨hsorted, Path.unique (c.extraRpaths ++ dirs), ?_,
      Path.orderedUnion_unique c.extraRpaths hsorted, ?_, ?_⟩
    · rw [Probe.all_eq, h]
      rfl
    · intro τ v seconds u hv
      have hwhole := shows_printRpaths hv false
      have honly := shows_printRpaths hv true
      rw [if_pos rfl, List.nil_append, hdirs] at honly
      exact ⟨hwhole, honly⟩
    · intro m env terminal args implicitOnly seconds hasks hprobe
      have hshows := shows_printRpaths hprobe implicitOnly
      obtain ⟨hcode, hstdout⟩ := run_of_asksFor hasks hshows terminal
      refine ⟨hcode, ?_⟩
      rw [hstdout]
      cases implicitOnly with
      | false => rfl
      | true =>
        rw [if_pos rfl, if_pos rfl, List.nil_append, hdirs]

end CommandLine

end Toolchain
