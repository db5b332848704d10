import Toolchain.Environment.Activation

/-!
# What an activation leaves alone

While an activation is under way only the variables, the log and what is outside the
process change. The open scopes, their count and the lock are touched by its first and last
act alone: opening its scope, and closing it again if something fails.

## Main statements

  * `andThen` — loading modules is one act after another, until one of them fails.
  * `Keeps.loadAll` — what each step of loading modules keeps, the whole keeps.
  * `keeps_sameScopes` — loading modules leaves the scopes alone, however it ends.
  * `enter_error_of_fault` — a bad mutation is found before anything happens.
  * `enter_error` — an activation that fails leaves no trace but its log.
  * `enter_ok` — one that succeeds has counted a scope and saved the environment.
-/

namespace Toolchain

variable {σ : Type}

/-! ## Sessions with the same scopes -/

namespace Session

/-- As many scopes are counted, the same ones are open, and the lock is as it was. -/
structure SameScopes (s t : Session σ) : Prop where
  depth : t.depth = s.depth
  locked : t.locked = s.locked
  scopes : t.scopes = s.scopes

theorem SameScopes.refl (s : Session σ) : SameScopes s s := ⟨rfl, rfl, rfl⟩

theorem SameScopes.trans {s t u : Session σ} (hst : SameScopes s t) (htu : SameScopes t u) :
    SameScopes s u where
  depth := htu.depth.trans hst.depth
  locked := htu.locked.trans hst.locked
  scopes := htu.scopes.trans hst.scopes

end Session

open Session

/-! ## One act after another -/

/-- One act after another, unless the first one fails. -/
def andThen {α β : Type} (x : Except CompilerError α × Session σ)
    (next : α → Session σ → Except CompilerError β × Session σ) :
    Except CompilerError β × Session σ :=
  match x with
  | (.error e, s) => (.error e, s)
  | (.ok v, s) => next v s

namespace Activation

theorem perform_eq (a : Activation) (loader : Loader σ) (verb : ModuleVerb)
    (name module : String) (s : Session σ) :
    a.perform loader verb name module s =
      andThen (a.ask loader verb name module s) (a.applyEffect module) := by
  unfold perform andThen
  rcases a.ask loader verb name module s with ⟨e | effect, t⟩
  · rfl
  · rfl

theorem unloadAll_cons (a : Activation) (loader : Loader σ) (module conflict : String)
    (rest : List String) (s : Session σ) :
    a.unloadAll loader module (conflict :: rest) s =
      andThen (a.perform loader .unload conflict module
          (s.debug (a.compiler ++ ": module " ++ module ++ " conflicts with " ++ conflict)))
        fun _ => a.unloadAll loader module rest := by
  rw [unloadAll]
  unfold andThen
  rcases a.perform loader .unload conflict module (s.debug _) with ⟨e | u, t⟩
  · rfl
  · rfl

theorem loadOne_eq (a : Activation) (loader : Loader σ) (module : String) (s : Session σ) :
    a.loadOne loader module s =
      andThen (a.ask loader .display module module s) fun shown t =>
        andThen (a.unloadAll loader module (moduleConflicts shown.output) t) fun _ =>
          a.perform loader .load module module := by
  unfold loadOne andThen
  rcases a.ask loader .display module module s with ⟨e | shown, t⟩
  · rfl
  · dsimp only
    rcases a.unloadAll loader module (moduleConflicts shown.output) t with ⟨e | u, v⟩
    · rfl
    · rfl

theorem loadAll_cons (a : Activation) (loader : Loader σ) (module : String)
    (rest : List String) (s : Session σ) :
    a.loadAll loader (module :: rest) s =
      andThen (a.loadOne loader module s) fun _ => a.loadAll loader rest := by
  rw [loadAll]
  unfold andThen
  rcases a.loadOne loader module s with ⟨e | u, t⟩
  · rfl
  · rfl

/-! ## Loading modules -/

/-- Each step of loading modules keeps a relation to what was there before: a log line, a call
of the loader, and changes that can be made. -/
structure Keeps (a : Activation) (loader : Loader σ) (R : Session σ → Session σ → Prop) :
    Prop where
  refl (s : Session σ) : R s s
  trans {s t u : Session σ} : R s t → R t u → R s u
  debug (s : Session σ) (text : String) : R s (s.debug text)
  ask (verb : ModuleVerb) (name module : String) (s : Session σ) :
    R s (a.ask loader verb name module s).2
  change {cs : List Change} (settable : (cs.findSome? fun c => variableFault? c.1 c.2) = none)
    (s : Session σ) : R s (s.change cs)

namespace Keeps

variable {a : Activation} {loader : Loader σ} {R : Session σ → Session σ → Prop}

theorem andThen (h : a.Keeps loader R) {α β : Type} {s : Session σ}
    {x : Except CompilerError α × Session σ}
    {next : α → Session σ → Except CompilerError β × Session σ} (hx : R s x.2)
    (hnext : ∀ v t, R t (next v t).2) : R s (andThen x next).2 := by
  rcases x with ⟨e | v, t⟩
  · exact hx
  · exact h.trans hx (hnext v t)

theorem applyEffect (h : a.Keeps loader R) (module : String) (effect : ModuleEffect)
    (s : Session σ) : R s (a.applyEffect module effect s).2 := by
  unfold Activation.applyEffect
  split
  · exact h.refl s
  · next hsettable => exact h.change hsettable s

theorem perform (h : a.Keeps loader R) (verb : ModuleVerb) (name module : String)
    (s : Session σ) : R s (a.perform loader verb name module s).2 := by
  rw [perform_eq]
  exact h.andThen (h.ask verb name module s) (h.applyEffect module)

theorem unloadAll (h : a.Keeps loader R) (module : String) (conflicts : List String)
    (s : Session σ) : R s (a.unloadAll loader module conflicts s).2 := by
  induction conflicts generalizing s with
  | nil => exact h.refl s
  | cons conflict rest ih =>
    rw [unloadAll_cons]
    refine h.andThen ?_ fun _ => ih
    exact h.trans (h.debug s _) (h.perform .unload conflict module _)

theorem loadOne (h : a.Keeps loader R) (module : String) (s : Session σ) :
    R s (a.loadOne loader module s).2 := by
  rw [loadOne_eq]
  refine h.andThen (h.ask .display module module s) fun shown t => ?_
  exact h.andThen (h.unloadAll module (moduleConflicts shown.output) t) fun _ =>
    h.perform .load module module

/-- What each step of loading modules keeps, the whole keeps, whether it succeeds or fails. -/
theorem loadAll (h : a.Keeps loader R) (modules : List String) (s : Session σ) :
    R s (a.loadAll loader modules s).2 := by
  induction modules generalizing s with
  | nil => exact h.refl s
  | cons module rest ih =>
    rw [loadAll_cons]
    exact h.andThen (h.loadOne module s) fun _ => ih

end Keeps

theorem sameScopes_mutate (a : Activation) (s : Session σ) : SameScopes s (a.mutate s) :=
  ⟨rfl, rfl, rfl⟩

/-- No step of loading modules touches the scopes. -/
theorem keeps_sameScopes (a : Activation) (loader : Loader σ) : a.Keeps loader SameScopes where
  refl := SameScopes.refl
  trans := SameScopes.trans
  debug _ _ := ⟨rfl, rfl, rfl⟩
  ask _ _ _ _ := ⟨rfl, rfl, rfl⟩
  change _ _ := ⟨rfl, rfl, rfl⟩

/-! ## Entering -/

/-- A mutation that cannot be made is found before anything happens. -/
theorem enter_error_of_fault {a : Activation} {fault : VariableFault}
    (h : a.mutation.fault? = some fault) (loader : Loader σ) (s : Session σ) :
    a.enter loader s =
      (.error (.invalidConfig (a.compiler ++ ": " ++ fault.message)), s) := by
  unfold enter
  rw [h]

/-- With a mutation that can be made, an activation opens its scope, makes the changes and
loads its modules; if that fails it closes the scope again. -/
theorem enter_of_no_fault {a : Activation} (h : a.mutation.fault? = none)
    (loader : Loader σ) (s : Session σ) :
    a.enter loader s =
      match a.loadAll loader a.modules (a.mutate s.enter.2) with
      | (.error e, t) => (.error e, t.leave s.enter.1)
      | (.ok _, t) => (.ok s.enter.1, t) := by
  unfold enter
  split
  · next fault hfault =>
    rw [h] at hfault
    cases hfault
  · rfl

/-- What an activation reaches before it ends has one scope more than it found. -/
theorem sameScopes_entered (a : Activation) (loader : Loader σ) (modules : List String)
    (s : Session σ) :
    SameScopes s.enter.2 (a.loadAll loader modules (a.mutate s.enter.2)).2 :=
  (sameScopes_mutate a s.enter.2).trans ((keeps_sameScopes a loader).loadAll modules _)

/-- An activation that fails leaves the variables, the count and the open scopes as they
were. -/
theorem enter_error {a : Activation} {loader : Loader σ} {s t : Session σ} {e : CompilerError}
    (h : a.enter loader s = (.error e, t)) :
    t.env = s.env ∧ t.depth = s.depth ∧ t.scopes = s.scopes := by
  cases hfault : a.mutation.fault? with
  | some fault =>
    rw [enter_error_of_fault hfault] at h
    obtain ⟨-, rfl⟩ := Prod.mk.inj h
    exact ⟨rfl, rfl, rfl⟩
  | none =>
    rw [enter_of_no_fault hfault] at h
    have hsame := sameScopes_entered a loader a.modules s
    split at h
    · next e' u hload =>
      rw [hload] at hsame
      obtain ⟨-, rfl⟩ := Prod.mk.inj h
      refine ⟨env_leave u s.enter.1, ?_, hsame.scopes⟩
      -- leaving takes away the one that entering has added
      have hdepth : u.depth = s.depth + 1 := hsame.depth
      show u.depth - 1 = s.depth
      omega
    · cases h

/-- An activation that succeeds has saved the environment that it found, and counted one
scope more. -/
theorem enter_ok {a : Activation} {loader : Loader σ} {s t : Session σ} {g : Guard}
    (h : a.enter loader s = (.ok g, t)) :
    g = s.enter.1 ∧ t.depth = s.depth + 1 ∧ t.scopes = s.scopes := by
  cases hfault : a.mutation.fault? with
  | some fault =>
    rw [enter_error_of_fault hfault] at h
    cases h
  | none =>
    rw [enter_of_no_fault hfault] at h
    have hsame := sameScopes_entered a loader a.modules s
    split at h
    · cases h
    · next u hload =>
      rw [hload] at hsame
      obtain ⟨hg, rfl⟩ := Prod.mk.inj h
      exact ⟨(Except.ok.inj hg).symm, hsame.depth, hsame.scopes⟩

end Activation

end Toolchain
