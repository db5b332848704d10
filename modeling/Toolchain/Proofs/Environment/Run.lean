import Toolchain.Compiler
import Toolchain.Proofs.Environment.Frame

/-!
# Runs of a process with scopes

A process goes through steps: scopes are opened, for an activation or for a compiler,
variables are set and removed in between, and open scopes are closed in any order. A step
that cannot be made (an activation that fails, a place where no scope is open) is a step
too.

  * `ScopeStep.perform`, `Session.run` — one step and many.
  * `ScopeStep.opens` — whether a step opens a scope.
  * `ScopeStep.shift`, `follow` — where an open scope is found after a step, and after many.

## Main statements

  * `perform_cases` — all that a step can do to the scopes.
  * `run_depth` — the count is the number of open scopes, all along a run.
  * `run_follow` — what a scope has saved stays as it is for as long as the scope is open.
-/

namespace Toolchain

variable {σ : Type}

/-! ## Steps -/

/-- What can happen to a process between its calls. -/
inductive ScopeStep (σ : Type) where
  /-- Opens a scope for an activation. -/
  | activate (a : Activation) (loader : Loader σ)
  /-- Opens the scope of a compiler. -/
  | compiler (c : Compiler) (loader : Loader σ)
  /-- Gives a variable a value. -/
  | set (name value : String)
  /-- Removes a variable. -/
  | unset (name : String)
  /-- Closes the open scope at a place, counted from the oldest. -/
  | release (index : Nat)

namespace ScopeStep

/-- The process after a step. -/
def perform (x : ScopeStep σ) (s : Session σ) : Session σ :=
  match x with
  | activate a loader => (a.openScope loader s).2
  | compiler c loader => (c.activation.openScope loader s).2
  | set name value => s.change [(name, some value)]
  | unset name => s.change [(name, none)]
  | release index => (s.releaseAt index).getD s

/-- Whether a step opens a scope: an activation that fails does not. -/
def opens (x : ScopeStep σ) (s : Session σ) : Bool :=
  match x with
  | activate a loader => (a.openScope loader s).1.isOk
  | compiler c loader => (c.activation.openScope loader s).1.isOk
  | _ => false

/-- The place at which an open scope is found after a step; none if the step closes it. -/
def shift (x : ScopeStep σ) (place : Nat) : Option Nat :=
  match x with
  | release index =>
    if index < place then some (place - 1) else if index = place then none else some place
  | _ => some place

end ScopeStep

/-- The process after steps, the first one first. -/
def Session.run (s : Session σ) (steps : List (ScopeStep σ)) : Session σ :=
  steps.foldl (fun s x => x.perform s) s

/-- The place at which an open scope is found after steps, if it is still open. -/
def follow : List (ScopeStep σ) → Nat → Option Nat
  | [], place => some place
  | x :: rest, place => (x.shift place).bind (follow rest)

theorem follow_append (xs ys : List (ScopeStep σ)) (place : Nat) :
    follow (xs ++ ys) place = (follow xs place).bind (follow ys) := by
  induction xs generalizing place with
  | nil => rfl
  | cons x xs ih =>
    show (x.shift place).bind (follow (xs ++ ys)) = _
    rw [show follow (xs ++ ys) = fun p => (follow xs p).bind (follow ys) from funext ih]
    exact (Option.bind_assoc _ _ _).symm

namespace Session

@[simp] theorem run_nil (s : Session σ) : s.run [] = s := rfl

@[simp] theorem run_cons (s : Session σ) (x : ScopeStep σ) (steps : List (ScopeStep σ)) :
    s.run (x :: steps) = (x.perform s).run steps := rfl

@[simp] theorem run_append (s : Session σ) (xs ys : List (ScopeStep σ)) :
    s.run (xs ++ ys) = (s.run xs).run ys :=
  List.foldl_append

/-! ## Closing a scope -/

/-- Closing the scope at a place puts back what it has saved. The others stay as they are,
and one less is counted. -/
theorem releaseAt_of_getElem? {s : Session σ} {index : Nat} {g : Guard}
    (h : s.scopes[index]? = some g) :
    ∃ t, s.releaseAt index = some t ∧ t.env = g.saved ∧
      t.scopes = s.scopes.eraseIdx index ∧ t.depth = s.depth - 1 := by
  unfold releaseAt
  rw [h]
  exact ⟨_, rfl, env_leave _ g, rfl, rfl⟩

theorem releaseAt_of_le {s : Session σ} {index : Nat} (h : s.scopes.length ≤ index) :
    s.releaseAt index = none := by
  unfold releaseAt
  rw [List.getElem?_eq_none h]

end Session

/-! ## One step -/

namespace ScopeStep

open Session

/-- All that opening a scope can do to the scopes. -/
theorem openScope_cases (a : Activation) (loader : Loader σ) (s : Session σ) :
    ((a.openScope loader s).1.isOk = true ∧
        (a.openScope loader s).2.scopes = s.scopes ++ [s.enter.1] ∧
        (a.openScope loader s).2.depth = s.depth + 1) ∨
      ((a.openScope loader s).1.isOk = false ∧
        (a.openScope loader s).2.scopes = s.scopes ∧
        (a.openScope loader s).2.depth = s.depth) := by
  unfold Activation.openScope
  split
  · next e t h =>
    obtain ⟨-, hdepth, hscopes⟩ := Activation.enter_error h
    exact .inr ⟨rfl, hscopes, hdepth⟩
  · next g t h =>
    obtain ⟨rfl, hdepth, hscopes⟩ := Activation.enter_ok h
    refine .inl ⟨rfl, ?_, hdepth⟩
    show t.scopes ++ [s.enter.1] = _
    rw [hscopes]

/-- All that a step can do to the scopes: open one more behind the others, leave them as they
are, or close one. Places move only where a scope is closed. -/
theorem perform_cases (x : ScopeStep σ) (s : Session σ) :
    (x.opens s = true ∧ (x.perform s).scopes = s.scopes ++ [s.enter.1] ∧
        (x.perform s).depth = s.depth + 1 ∧
        ∀ place < s.scopes.length, x.shift place = some place) ∨
      (x.opens s = false ∧ (x.perform s).scopes = s.scopes ∧ (x.perform s).depth = s.depth ∧
        ∀ place < s.scopes.length, x.shift place = some place) ∨
      ∃ index, x = .release index ∧ index < s.scopes.length ∧
        (x.perform s).scopes = s.scopes.eraseIdx index ∧ (x.perform s).depth = s.depth - 1 := by
  cases x with
  | activate a loader =>
    rcases openScope_cases a loader s with ⟨hok, hscopes, hdepth⟩ | ⟨hok, hscopes, hdepth⟩
    · exact .inl ⟨hok, hscopes, hdepth, fun _ _ => rfl⟩
    · exact .inr (.inl ⟨hok, hscopes, hdepth, fun _ _ => rfl⟩)
  | compiler c loader =>
    rcases openScope_cases c.activation loader s with
      ⟨hok, hscopes, hdepth⟩ | ⟨hok, hscopes, hdepth⟩
    · exact .inl ⟨hok, hscopes, hdepth, fun _ _ => rfl⟩
    · exact .inr (.inl ⟨hok, hscopes, hdepth, fun _ _ => rfl⟩)
  | set name value => exact .inr (.inl ⟨rfl, rfl, rfl, fun _ _ => rfl⟩)
  | unset name => exact .inr (.inl ⟨rfl, rfl, rfl, fun _ _ => rfl⟩)
  | release index =>
    by_cases h : index < s.scopes.length
    · obtain ⟨t, ht, -, hscopes, hdepth⟩ :=
        releaseAt_of_getElem? (List.getElem?_eq_getElem h)
      have hperform : (release index).perform s = t := by
        show (s.releaseAt index).getD s = t
        rw [ht]
        rfl
      exact .inr (.inr ⟨index, rfl, h, hperform ▸ hscopes, hperform ▸ hdepth⟩)
    · -- there is no scope at this place, so nothing happens
      have hperform : (release index).perform s = s := by
        show (s.releaseAt index).getD s = s
        rw [releaseAt_of_le (Nat.le_of_not_lt h)]
        rfl
      refine .inr (.inl ⟨rfl, by rw [hperform], by rw [hperform], ?_⟩)
      intro place hplace
      show (if index < place then _ else _) = _
      rw [if_neg (by omega), if_neg (by omega)]

/-- A scope that is still open after a step has kept what it saved. -/
theorem getElem?_perform {x : ScopeStep σ} {s : Session σ} {place place' : Nat} {g : Guard}
    (h : s.scopes[place]? = some g) (hshift : x.shift place = some place') :
    (x.perform s).scopes[place']? = some g := by
  obtain ⟨hlt, -⟩ := List.getElem?_eq_some_iff.1 h
  rcases perform_cases x s with
    ⟨-, hscopes, -, hstay⟩ | ⟨-, hscopes, -, hstay⟩ | ⟨index, rfl, -, hscopes, -⟩
  · obtain rfl : place = place' := Option.some.inj ((hstay place hlt).symm.trans hshift)
    rw [hscopes, List.getElem?_append_left hlt]
    exact h
  · obtain rfl : place = place' := Option.some.inj ((hstay place hlt).symm.trans hshift)
    rw [hscopes]
    exact h
  · rw [hscopes, List.getElem?_eraseIdx]
    simp only [shift] at hshift
    split at hshift
    · -- the closed scope is older, and the places behind it move up
      next hindex =>
      obtain rfl : place - 1 = place' := Option.some.inj hshift
      rw [if_neg (by omega), Nat.sub_add_cancel (by omega)]
      exact h
    · split at hshift
      · cases hshift
      · obtain rfl : place = place' := Option.some.inj hshift
        rw [if_pos (by omega)]
        exact h

end ScopeStep

/-! ## Many steps -/

namespace Session

open ScopeStep

/-- What a scope has saved stays as it is for as long as the scope is open. -/
theorem run_follow {s : Session σ} {steps : List (ScopeStep σ)} {place place' : Nat} {g : Guard}
    (h : s.scopes[place]? = some g) (hfollow : follow steps place = some place') :
    (s.run steps).scopes[place']? = some g := by
  induction steps generalizing s place with
  | nil =>
    obtain rfl : place = place' := Option.some.inj hfollow
    exact h
  | cons x rest ih =>
    obtain ⟨next, hshift, hrest⟩ := Option.bind_eq_some_iff.1 hfollow
    exact ih (getElem?_perform h hshift) hrest

/-- The count of scopes is right after a step if it was right before. -/
theorem depth_perform {s : Session σ} (h : s.depth = s.scopes.length) (x : ScopeStep σ) :
    (x.perform s).depth = (x.perform s).scopes.length := by
  rcases perform_cases x s with
    ⟨-, hscopes, hdepth, -⟩ | ⟨-, hscopes, hdepth, -⟩ | ⟨index, -, hlt, hscopes, hdepth⟩
  · rw [hscopes, hdepth, List.length_append, h]
    rfl
  · rw [hscopes, hdepth, h]
  · rw [hscopes, hdepth, List.length_eraseIdx_of_lt hlt, h]

/-- The count is the number of open scopes, all along a run. -/
theorem run_depth {s : Session σ} (h : s.depth = s.scopes.length)
    (steps : List (ScopeStep σ)) : (s.run steps).depth = (s.run steps).scopes.length := by
  induction steps generalizing s with
  | nil => exact h
  | cons x rest ih => exact ih (depth_perform h x)

end Session

end Toolchain
