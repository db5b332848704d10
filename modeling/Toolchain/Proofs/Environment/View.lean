import Toolchain.Proofs.Environment.Frame

/-!
# What a loader remembers

A loader may remember more than another one and answer the same. What the other remembers is
then a *view* of what this one does, and an activation cannot tell the two apart: its answer
is the same, and so is the session if what is outside it is seen through the view.

  * `Loader.SeenAs` — a loader answers as another one, through a view.
  * `Session.through`, `through` — a session, and an answer with one, through a view.

## Main statement

`through_enter` — an activation does the same with both loaders.
-/

namespace Toolchain

variable {σ τ : Type}

/-- A session of which what is outside is seen through a view. -/
def Session.through (view : τ → σ) (s : Session τ) : Session σ :=
  { s with outside := view s.outside }

/-- An answer and the session seen through a view. -/
def through (view : τ → σ) {α : Type} (x : α × Session τ) : α × Session σ :=
  (x.1, x.2.through view)

/-- A loader answers as another one and remembers the same, seen through a view. -/
def Loader.SeenAs (fine : Loader τ) (view : τ → σ) (coarse : Loader σ) : Prop :=
  ∀ verb name env outside,
    Prod.map id view (fine verb name env outside) = coarse verb name env (view outside)

/-- Acts that are the same through a view are so one after the other. -/
theorem through_andThen {view : τ → σ} {α β : Type} {x : Except CompilerError α × Session τ}
    {x' : Except CompilerError α × Session σ} (hx : through view x = x')
    {next : α → Session τ → Except CompilerError β × Session τ}
    {next' : α → Session σ → Except CompilerError β × Session σ}
    (hnext : ∀ v s, through view (next v s) = next' v (s.through view)) :
    through view (andThen x next) = andThen x' next' := by
  subst hx
  rcases x with ⟨e | v, s⟩
  · rfl
  · exact hnext v s

namespace Activation

variable {fine : Loader τ} {view : τ → σ} {coarse : Loader σ}

theorem through_ask (h : fine.SeenAs view coarse) (a : Activation) (verb : ModuleVerb)
    (name module : String) (s : Session τ) :
    through view (a.ask fine verb name module s) =
      a.ask coarse verb name module (s.through view) := by
  have hcall := h verb name s.env s.outside
  rcases hfine : fine verb name s.env s.outside with ⟨answer, outside⟩
  rw [hfine] at hcall
  -- the log line that is written first is nothing that a loader sees
  have hfine' : ∀ text, fine verb name (s.debug text).env (s.debug text).outside =
      (answer, outside) := fun _ => hfine
  have hcoarse : ∀ text, coarse verb name ((s.through view).debug text).env
      ((s.through view).debug text).outside = (answer, view outside) := fun _ => hcall.symm
  unfold ask
  dsimp only
  rw [hfine', hcoarse]
  rfl

theorem through_applyEffect (view : τ → σ) (a : Activation) (module : String)
    (effect : ModuleEffect) (s : Session τ) :
    through view (a.applyEffect module effect s) =
      a.applyEffect module effect (s.through view) := by
  unfold applyEffect
  split
  · rfl
  · rfl

theorem through_perform (h : fine.SeenAs view coarse) (a : Activation) (verb : ModuleVerb)
    (name module : String) (s : Session τ) :
    through view (a.perform fine verb name module s) =
      a.perform coarse verb name module (s.through view) := by
  rw [perform_eq, perform_eq]
  exact through_andThen (through_ask h a verb name module s) (through_applyEffect view a module)

theorem through_unloadAll (h : fine.SeenAs view coarse) (a : Activation) (module : String)
    (conflicts : List String) (s : Session τ) :
    through view (a.unloadAll fine module conflicts s) =
      a.unloadAll coarse module conflicts (s.through view) := by
  induction conflicts generalizing s with
  | nil => rfl
  | cons conflict rest ih =>
    rw [unloadAll_cons, unloadAll_cons]
    apply through_andThen
    · exact through_perform h a .unload conflict module (s.debug _)
    · intro _ t
      exact ih t

theorem through_loadOne (h : fine.SeenAs view coarse) (a : Activation) (module : String)
    (s : Session τ) :
    through view (a.loadOne fine module s) = a.loadOne coarse module (s.through view) := by
  rw [loadOne_eq, loadOne_eq]
  apply through_andThen (through_ask h a .display module module s)
  intro shown t
  apply through_andThen (through_unloadAll h a module (moduleConflicts shown.output) t)
  intro _ u
  exact through_perform h a .load module module u

theorem through_loadAll (h : fine.SeenAs view coarse) (a : Activation) (modules : List String)
    (s : Session τ) :
    through view (a.loadAll fine modules s) = a.loadAll coarse modules (s.through view) := by
  induction modules generalizing s with
  | nil => rfl
  | cons module rest ih =>
    rw [loadAll_cons, loadAll_cons]
    apply through_andThen (through_loadOne h a module s)
    intro _ t
    exact ih t

/-- An activation does the same with a loader that remembers more. -/
theorem through_enter (h : fine.SeenAs view coarse) (a : Activation) (s : Session τ) :
    through view (a.enter fine s) = a.enter coarse (s.through view) := by
  cases hfault : a.mutation.fault? with
  | some fault =>
    rw [enter_error_of_fault hfault, enter_error_of_fault hfault]
    rfl
  | none =>
    rw [enter_of_no_fault hfault, enter_of_no_fault hfault]
    have hload := through_loadAll h a a.modules (a.mutate s.enter.2)
    have hstart : (a.mutate s.enter.2).through view = a.mutate (s.through view).enter.2 := rfl
    rw [← hstart, ← hload]
    rcases a.loadAll fine a.modules (a.mutate s.enter.2) with ⟨e | u, t⟩
    · rfl
    · rfl

end Activation

end Toolchain
