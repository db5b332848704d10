import Toolchain.Proofs.Environment.Frame

/-!
# Activations that fail

An activation fails for a mutation that cannot be made, or at a call of the loader. This
module says at which call, and that in either case nothing is left of it.

  * `Refused` — a call of the loader whose answer stops the activation.
  * `Stuck` — the three places at which loading one module can stop.

## Main statements

  * `loadOne_error`, `loadAll_error` — an error comes from a refused call, and names the
    module of the list that was being loaded.
  * `failed_activation_undone` — the environment and the scopes are as before, and the error
    says why.
-/

namespace Toolchain

variable {σ : Type}

namespace Activation

/-! ## Refused calls -/

/-- A call that stops an activation, with the message about it: the loader fails, or it
answers a change that cannot be made. What `show` answers as changes does not matter. -/
inductive Refused (loader : Loader σ) (verb : ModuleVerb) (name : String) (s : Session σ) :
    String → Prop where
  | failed {message : String}
      (answer : (loader verb name s.env s.outside).1 = .error message) :
      Refused loader verb name s message
  | unsettable {effect : ModuleEffect} {fault : VariableFault} (changing : verb ≠ .display)
      (answer : (loader verb name s.env s.outside).1 = .ok effect)
      (bad : (effect.changes.findSome? fun c => variableFault? c.1 c.2) = some fault) :
      Refused loader verb name s fault.message

/-- The log makes no difference to the loader. -/
theorem Refused.of_debug {loader : Loader σ} {verb : ModuleVerb} {name text message : String}
    {s : Session σ} (h : Refused loader verb name (s.debug text) message) :
    Refused loader verb name s message := by
  cases h with
  | failed answer => exact .failed answer
  | unsettable changing answer bad => exact .unsettable changing answer bad

theorem ask_error {a : Activation} {loader : Loader σ} {verb : ModuleVerb}
    {name module : String} {s t : Session σ} {e : CompilerError}
    (h : a.ask loader verb name module s = (.error e, t)) :
    ∃ message, (loader verb name s.env s.outside).1 = .error message ∧
      e = a.moduleError module message := by
  have hanswer : (loader verb name s.env s.outside).1.mapError (a.moduleError module) =
      .error e := congrArg Prod.fst h
  cases hcall : (loader verb name s.env s.outside).1 with
  | error message =>
    rw [hcall] at hanswer
    exact ⟨message, rfl, (Except.error.inj hanswer).symm⟩
  | ok effect =>
    rw [hcall] at hanswer
    cases hanswer

theorem ask_ok {a : Activation} {loader : Loader σ} {verb : ModuleVerb}
    {name module : String} {s t : Session σ} {effect : ModuleEffect}
    (h : a.ask loader verb name module s = (.ok effect, t)) :
    (loader verb name s.env s.outside).1 = .ok effect := by
  have hanswer : (loader verb name s.env s.outside).1.mapError (a.moduleError module) =
      .ok effect := congrArg Prod.fst h
  cases hcall : (loader verb name s.env s.outside).1 with
  | error message =>
    rw [hcall] at hanswer
    cases hanswer
  | ok effect' =>
    rw [hcall] at hanswer
    rw [Except.ok.inj hanswer]

/-- Asking for changes and making them fails only at a refused call. -/
theorem perform_error {a : Activation} {loader : Loader σ} {verb : ModuleVerb}
    (hverb : verb ≠ .display) {name module : String} {s t : Session σ} {e : CompilerError}
    (h : a.perform loader verb name module s = (.error e, t)) :
    ∃ message, Refused loader verb name s message ∧ e = a.moduleError module message := by
  unfold perform at h
  split at h
  · next e' u hask =>
    obtain ⟨he, -⟩ := Prod.mk.inj h
    obtain ⟨message, hanswer, rfl⟩ := ask_error hask
    exact ⟨message, .failed hanswer, (Except.error.inj he).symm⟩
  · next effect u hask =>
    unfold applyEffect at h
    split at h
    · next fault hbad =>
      obtain ⟨he, -⟩ := Prod.mk.inj h
      exact ⟨fault.message, .unsettable hverb (ask_ok hask) hbad, (Except.error.inj he).symm⟩
    · cases h

/-! ## Where loading stops -/

/-- Loading a module stops: at showing it, at unloading one of the modules that it conflicts
with, or at loading it, and all that comes before has been done. -/
inductive Stuck (a : Activation) (loader : Loader σ) (module : String) (s : Session σ) :
    String → Prop where
  | showing {message : String} (refused : Refused loader .display module s message) :
      Stuck a loader module s message
  | unloading {shown : ModuleEffect} {t u : Session σ} {earlier later : List String}
      {conflict message : String}
      (shows : a.ask loader .display module module s = (.ok shown, t))
      (conflicts : moduleConflicts shown.output = earlier ++ conflict :: later)
      (unloads : a.unloadAll loader module earlier t = (.ok (), u))
      (refused : Refused loader .unload conflict u message) :
      Stuck a loader module s message
  | loading {shown : ModuleEffect} {t u : Session σ} {message : String}
      (shows : a.ask loader .display module module s = (.ok shown, t))
      (unloads : a.unloadAll loader module (moduleConflicts shown.output) t = (.ok (), u))
      (refused : Refused loader .load module u message) :
      Stuck a loader module s message

/-- Unloading stops at the first module for which the call is refused. The error is about
the module on whose behalf it is unloaded. -/
theorem unloadAll_error {a : Activation} {loader : Loader σ} {module : String}
    {conflicts : List String} {s t : Session σ} {e : CompilerError}
    (h : a.unloadAll loader module conflicts s = (.error e, t)) :
    ∃ earlier conflict later u message, conflicts = earlier ++ conflict :: later ∧
      a.unloadAll loader module earlier s = (.ok (), u) ∧
      Refused loader .unload conflict u message ∧ e = a.moduleError module message := by
  induction conflicts generalizing s with
  | nil => cases h
  | cons conflict rest ih =>
    rw [unloadAll] at h
    split at h
    · next e' v hperform =>
      obtain ⟨he, -⟩ := Prod.mk.inj h
      obtain ⟨message, hrefused, rfl⟩ := perform_error (by decide) hperform
      exact ⟨[], conflict, rest, s, message, rfl, rfl, hrefused.of_debug,
        (Except.error.inj he).symm⟩
    · next v hperform =>
      obtain ⟨earlier, conflict', later, u, message, hrest, hearlier, hrefused, he⟩ := ih h
      refine ⟨conflict :: earlier, conflict', later, u, message, ?_, ?_, hrefused, he⟩
      · rw [hrest, List.cons_append]
      · rw [unloadAll, hperform]
        exact hearlier

/-- Loading one module fails with an error about this module, whichever call is refused. -/
theorem loadOne_error {a : Activation} {loader : Loader σ} {module : String}
    {s t : Session σ} {e : CompilerError} (h : a.loadOne loader module s = (.error e, t)) :
    ∃ message, a.Stuck loader module s message ∧ e = a.moduleError module message := by
  unfold loadOne at h
  split at h
  · next e' v hask =>
    obtain ⟨he, -⟩ := Prod.mk.inj h
    -- what is shown is not made, so only a failure of the loader counts here
    obtain ⟨message, hanswer, rfl⟩ := ask_error hask
    exact ⟨message, .showing (.failed hanswer), (Except.error.inj he).symm⟩
  · next shown v hask =>
    split at h
    · next e' w hunload =>
      obtain ⟨he, -⟩ := Prod.mk.inj h
      obtain ⟨earlier, conflict, later, u, message, hconflicts, hearlier, hrefused, rfl⟩ :=
        unloadAll_error hunload
      exact ⟨message, .unloading hask hconflicts hearlier hrefused, (Except.error.inj he).symm⟩
    · next w hunload =>
      obtain ⟨message, hrefused, he⟩ := perform_error (by decide) h
      exact ⟨message, .loading hask hunload hrefused, he⟩

/-- Loading a list stops at one of its modules, with those before it loaded. -/
theorem loadAll_error {a : Activation} {loader : Loader σ} {modules : List String}
    {s t : Session σ} {e : CompilerError} (h : a.loadAll loader modules s = (.error e, t)) :
    ∃ done module rest u message, modules = done ++ module :: rest ∧
      a.loadAll loader done s = (.ok (), u) ∧ a.Stuck loader module u message ∧
      e = a.moduleError module message := by
  induction modules generalizing s with
  | nil => cases h
  | cons module rest ih =>
    rw [loadAll] at h
    split at h
    · next e' v hone =>
      obtain ⟨he, -⟩ := Prod.mk.inj h
      -- the first module stops, and nothing has been loaded before it
      obtain ⟨message, hstuck, rfl⟩ := loadOne_error hone
      exact ⟨[], module, rest, s, message, rfl, rfl, hstuck, (Except.error.inj he).symm⟩
    · next v hone =>
      -- the first module is loaded, so it is one of those before the place where the rest stops
      obtain ⟨done, module', rest', u, message, hrest, hdone, hstuck, he⟩ := ih h
      refine ⟨module :: done, module', rest', u, message, ?_, ?_, hstuck, he⟩
      · rw [hrest, List.cons_append]
      · rw [loadAll, hone]
        exact hdone

/-! ## Nothing is left -/

/-- A mutation that cannot be made is refused before the loader is asked anything, and the
process stays as it is. An activation that fails otherwise fails at a refused call, with an
error that names the module of the list that was being loaded. In any case the environment,
the count of scopes and the open scopes are those that it found. -/
theorem failed_activation_undone (a : Activation) (loader : Loader σ) (s : Session σ) :
    (∀ fault, a.mutation.fault? = some fault →
      a.enter loader s =
        (.error (.invalidConfig (a.compiler ++ ": " ++ fault.message)), s)) ∧
    ∀ e t, a.enter loader s = (.error e, t) →
      t.env = s.env ∧ t.depth = s.depth ∧ t.scopes = s.scopes ∧
      (a.mutation.fault? = none →
        ∃ done module rest u message, a.modules = done ++ module :: rest ∧
          e = .environment a.compiler module message ∧
          a.loadAll loader done (a.mutate s.enter.2) = (.ok (), u) ∧
          a.Stuck loader module u message) := by
  refine ⟨fun fault hfault => enter_error_of_fault hfault loader s, ?_⟩
  intro e t h
  obtain ⟨henv, hdepth, hscopes⟩ := enter_error h
  refine ⟨henv, hdepth, hscopes, ?_⟩
  intro hfault
  rw [enter_of_no_fault hfault] at h
  split at h
  · next e' v hload =>
    obtain ⟨he, -⟩ := Prod.mk.inj h
    obtain ⟨done, module, rest, u, message, hmodules, hdone, hstuck, rfl⟩ := loadAll_error hload
    exact ⟨done, module, rest, u, message, hmodules, (Except.error.inj he).symm, hdone, hstuck⟩
  · cases h

/-- The module that a conflict is unloaded for is named, not the conflict. -/
example :
    let loader : Loader Unit := fun verb name _ u =>
      match verb, name with
      | .display, "gcc/13" => (.ok { output := "conflict intel" }, u)
      | .unload, _ => (.error "in use", u)
      | _, _ => (.ok { changes := [("CC", some "gcc")] }, u)
    let a : Activation := { compiler := "gcc@13", modules := ["base", "gcc/13", "mpi"] }
    ∃ t, a.enter loader (.start (.ofList [("CC", "cc")]) ()) =
        (.error (.environment "gcc@13" "gcc/13" "in use"), t) ∧
      t.env = .ofList [("CC", "cc")] :=
  ⟨_, rfl, by decide +kernel⟩

end Activation

end Toolchain
