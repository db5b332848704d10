import Mathlib.Data.List.Induction
import Toolchain.Proofs.Environment.Run

/-!
# Scopes give back what they found

Whatever happens in a process, each open scope goes back to one step of the run, the one
that opened it, and closing the scope gives exactly the environment that this step found.

  * `OpenedFrom` — the scope at a place after a run, and the process that its opening found.
  * `innermostFirst` — closing all scopes, the one that was opened last first.

## Main statements

  * `exists_openedFrom` — every open scope was opened by a step of the run.
  * `getElem?_of_openedFrom` — it has saved what that step found.
  * `run_innermostFirst` — closing one by one is closing all.
  * `scopes_give_back` — the three together, over whole runs.
-/

namespace Toolchain

variable {σ : Type}

namespace Session

open ScopeStep

/-! ## Where a scope comes from -/

/-- The scope at a place after a run was opened by one of its steps, and has stayed open
since; `before` is the process that this step found. -/
def OpenedFrom (start : Session σ) (steps : List (ScopeStep σ)) (place : Nat)
    (before : Session σ) : Prop :=
  ∃ earlier x inside, steps = earlier ++ x :: inside ∧ before = start.run earlier ∧
    x.opens before = true ∧ follow inside before.scopes.length = some place

/-- A scope that a step does not close is as much open after the step. -/
theorem OpenedFrom.snoc {start before : Session σ} {steps : List (ScopeStep σ)}
    {place place' : Nat} (h : OpenedFrom start steps place before) {x : ScopeStep σ}
    (hshift : x.shift place = some place') :
    OpenedFrom start (steps ++ [x]) place' before := by
  obtain ⟨earlier, y, inside, rfl, hbefore, hopens, hfollow⟩ := h
  refine ⟨earlier, y, inside ++ [x], by simp, hbefore, hopens, ?_⟩
  rw [follow_append, hfollow]
  show (x.shift place).bind (follow []) = _
  rw [hshift]
  rfl

/-- Every open scope was opened by a step of the run. -/
theorem exists_openedFrom {start : Session σ} (hstart : start.scopes = [])
    (steps : List (ScopeStep σ)) {place : Nat} (h : place < (start.run steps).scopes.length) :
    ∃ before, OpenedFrom start steps place before := by
  induction steps using List.reverseRecOn generalizing place with
  | nil =>
    rw [run_nil, hstart] at h
    cases h
  | append_singleton steps x ih =>
    have hrun : start.run (steps ++ [x]) = x.perform (start.run steps) := run_append ..
    rw [hrun] at h
    rcases perform_cases x (start.run steps) with
      ⟨hopens, hscopes, -, hstay⟩ | ⟨-, hscopes, -, hstay⟩ | ⟨index, rfl, hlt, hscopes, -⟩
    · rw [hscopes, List.length_append] at h
      by_cases hold : place < (start.run steps).scopes.length
      · obtain ⟨before, hbefore⟩ := ih hold
        exact ⟨before, hbefore.snoc (hstay place hold)⟩
      · -- the scope that this very step has opened
        obtain rfl : (start.run steps).scopes.length = place := by
          simp only [List.length_singleton] at h
          omega
        exact ⟨start.run steps, steps, x, [], rfl, rfl, hopens, rfl⟩
    · rw [hscopes] at h
      obtain ⟨before, hbefore⟩ := ih h
      exact ⟨before, hbefore.snoc (hstay place h)⟩
    · rw [hscopes, List.length_eraseIdx_of_lt hlt] at h
      by_cases hplace : place < index
      · have hold : place < (start.run steps).scopes.length := by omega
        obtain ⟨before, hbefore⟩ := ih hold
        refine ⟨before, hbefore.snoc ?_⟩
        show (if index < place then _ else _) = _
        rw [if_neg (by omega), if_neg (by omega)]
      · -- it stood one place further back
        have hold : place + 1 < (start.run steps).scopes.length := by omega
        obtain ⟨before, hbefore⟩ := ih hold
        refine ⟨before, hbefore.snoc ?_⟩
        show (if index < place + 1 then _ else _) = _
        rw [if_pos (by omega), Nat.add_sub_cancel]

/-- A scope has saved the environment that its opening found. -/
theorem getElem?_of_openedFrom {start before : Session σ} {steps : List (ScopeStep σ)}
    {place : Nat} (h : OpenedFrom start steps place before) :
    (start.run steps).scopes[place]? = some before.enter.1 := by
  obtain ⟨earlier, x, inside, rfl, rfl, hopens, hfollow⟩ := h
  rw [run_append, run_cons]
  refine run_follow ?_ hfollow
  rcases perform_cases x (start.run earlier) with
    ⟨-, hscopes, -, -⟩ | ⟨hfalse, -, -, -⟩ | ⟨index, rfl, -, -, -⟩
  · rw [hscopes]
    exact List.getElem?_concat_length
  · rw [hopens] at hfalse
    cases hfalse
  · -- a step that closes a scope opens none
    cases hopens

/-! ## Closing all scopes -/

/-- The steps that close as many scopes as there are, the one that was opened last first. -/
def innermostFirst (n : Nat) : List (ScopeStep σ) := (List.range n).reverse.map release

theorem innermostFirst_succ (n : Nat) :
    (innermostFirst (n + 1) : List (ScopeStep σ)) = release n :: innermostFirst n := by
  simp [innermostFirst, List.range_succ]

theorem leaveAll_concat (s : Session σ) (gs : List Guard) (g : Guard) :
    s.leaveAll (gs ++ [g]) = (s.leaveAll gs).leave g := by
  induction gs generalizing s with
  | nil => rfl
  | cons h gs ih => exact ih (s.leave h)

theorem scopes_leaveAll (s : Session σ) (gs : List Guard) :
    (s.leaveAll gs).scopes = s.scopes := by
  induction gs generalizing s with
  | nil => rfl
  | cons g gs ih => exact ih (s.leave g)

/-- Closing one scope after the other, from the inside, is closing all. -/
theorem run_innermostFirst (s : Session σ) :
    s.run (innermostFirst s.scopes.length) = s.releaseAll := by
  generalize hgs : s.scopes = gs
  induction gs using List.reverseRecOn generalizing s with
  | nil =>
    show s = { s with scopes := [] }.leaveAll s.scopes.reverse
    rw [hgs]
    show s = { s with scopes := [] }
    rw [← hgs]
  | append_singleton gs g ih =>
    -- the scope that was opened last is closed first; the others are those of the hypothesis
    have hperform : (release gs.length).perform s =
        { s with scopes := gs }.leave g := by
      simp [perform, releaseAt, hgs, List.eraseIdx_append_of_length_le]
    have hall : s.releaseAll = { s with scopes := [] }.leaveAll (g :: gs.reverse) := by
      unfold releaseAll
      rw [hgs, List.reverse_append]
      rfl
    rw [List.length_append, List.length_singleton, innermostFirst_succ, run_cons, hperform,
      ih _ rfl, hall]
    rfl

/-- Closing all scopes gives back what the oldest one has saved. -/
theorem env_releaseAll {s : Session σ} {g : Guard} (h : s.scopes[0]? = some g) :
    s.releaseAll.env = g.saved := by
  obtain ⟨rest, hscopes⟩ : ∃ rest, s.scopes = g :: rest := by
    cases hs : s.scopes with
    | nil => rw [hs] at h; cases h
    | cons g' rest =>
      rw [hs] at h
      exact ⟨rest, by rw [Option.some.inj h]⟩
  unfold releaseAll
  rw [hscopes, List.reverse_cons, leaveAll_concat]
  exact env_leave _ g

/-! ## Whole runs -/

/-- A process starts without scopes and goes through any steps. Then as many scopes are
counted as are open, and each of them was opened by one of the steps. Closing the scope at
any place gives exactly the environment that its opening found, and leaves the other scopes
with what they have saved. Closing all of them from the inside gives the environment that
the opening of the oldest one found. -/
theorem scopes_give_back (env : Environment) (outside : σ) (steps : List (ScopeStep σ)) :
    let start := Session.start env outside
    let s := start.run steps
    let final := s.run (innermostFirst s.scopes.length)
    s.depth = s.scopes.length ∧
      (∀ place < s.scopes.length, ∃ before, OpenedFrom start steps place before) ∧
      (∀ place before, OpenedFrom start steps place before →
        ∃ t, s.releaseAt place = some t ∧ t.env = before.env ∧
          t.scopes = s.scopes.eraseIdx place) ∧
      (∀ before, OpenedFrom start steps 0 before → final.env = before.env) ∧
      final = s.releaseAll ∧ final.scopes = [] ∧ final.depth = 0 := by
  intro start s final
  have hcount : start.depth = start.scopes.length := rfl
  have hfinal : final = s.releaseAll := run_innermostFirst s
  have hnone : final.scopes = [] := by
    rw [hfinal]
    exact scopes_leaveAll _ _
  refine ⟨run_depth hcount steps, fun place hplace => exists_openedFrom rfl steps hplace,
    ?_, ?_, hfinal, hnone, ?_⟩
  · intro place before hbefore
    obtain ⟨t, ht, henv, hscopes, -⟩ := releaseAt_of_getElem? (getElem?_of_openedFrom hbefore)
    exact ⟨t, ht, henv, hscopes⟩
  · intro before hbefore
    rw [hfinal]
    exact env_releaseAll (getElem?_of_openedFrom hbefore)
  · have hdepth : final.depth = final.scopes.length :=
      run_depth (run_depth hcount steps) (innermostFirst s.scopes.length)
    rw [hdepth, hnone]
    rfl

/-- Two scopes, of which the older one is closed first: each gives back what it found. -/
example :
    let a : Activation := { compiler := "gcc@13", mutation := { set := .ofList [("A", "2")] } }
    let b : Activation := { compiler := "clang@17", mutation := { unset := ["A", "B"] } }
    let loader : Loader Unit := fun _ _ _ u => (.error "", u)
    let s := (Session.start (.ofList [("A", "1")]) ()).run
      [.activate a loader, .set "B" "x", .activate b loader, .set "C" "y"]
    (s.run [.release 0]).env = .ofList [("A", "1")] ∧
      (s.run [.release 0, .release 0]).env = .ofList [("A", "2"), ("B", "x")] := by
  decide +kernel

end Session

end Toolchain
