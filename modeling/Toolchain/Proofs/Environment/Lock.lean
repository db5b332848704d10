import Mathlib.Data.List.Perm.Basic
import Toolchain.Proofs.Environment.Run

/-!
# The lock of a thread

A thread opens scopes, and it enters sections that run under the lock without a scope. Both
count, and both may own the lock: the one that is opened at depth zero takes it and owns it,
and closing this one gives it back. Sections end innermost first, but scopes are closed in
any order, so the owner need not be the last to go.

  * `Thread`, `ThreadStep` — a thread, and what it does between its calls.
  * `Thread.opened`, `Thread.owners` — how many scopes and sections are open, and how many of
    them own the lock. The thread holds the lock if one does.
  * `ThreadStep.effect` — whether a step opens something, closes something, or neither.
  * `ThreadStep.ReleasesEarly` — the owner is closed while something else is open.

## Main statements

  * `section_eq_withLock` — a section is what `Session.withLock` runs.
  * `moved_perform` — all that a step can do to the count, the owners and the lock.
  * `Counted.covered_perform_iff` — a thread that holds the lock as long as something is open
    goes on doing so, unless the step releases the lock early.
-/

namespace Toolchain

variable {σ : Type}

/-! ## Threads -/

/-- A thread: its session, and the sections that it is in, the innermost first, each with
whether it owns the lock. -/
structure Thread (σ : Type) where
  session : Session σ
  sections : List Bool := []

namespace Thread

/-- How many scopes and sections are open. -/
def opened (t : Thread σ) : Nat := t.session.scopes.length + t.sections.length

/-- How many of them own the lock. -/
def owners (t : Thread σ) : Nat := t.session.scopes.countP Guard.ownsLock + t.sections.countP id

/-- The thread holds the lock: something that is open owns it. -/
def Holds (t : Thread σ) : Prop := t.owners ≠ 0

/-- The thread holds the lock exactly while something is open. -/
def Covered (t : Thread σ) : Prop := t.opened ≠ 0 ↔ t.Holds

instance (t : Thread σ) : Decidable t.Holds := inferInstanceAs (Decidable (_ ≠ _))

instance (t : Thread σ) : Decidable t.Covered := inferInstanceAs (Decidable (_ ↔ _))

theorem owners_le_opened (t : Thread σ) : t.owners ≤ t.opened :=
  Nat.add_le_add List.countP_le_length List.countP_le_length

end Thread

/-! ## Steps -/

/-- What a thread can do between its calls. -/
inductive ThreadStep (σ : Type) where
  /-- A step of its session. -/
  | scope (x : ScopeStep σ)
  /-- Begins a section under the lock. -/
  | beginSection
  /-- Ends the innermost section. -/
  | endSection

/-- What a step does to what is open. -/
inductive ThreadStep.Effect
  | stays
  | opens
  | closes (owner : Bool)
  deriving DecidableEq

namespace ThreadStep

/-- The thread after a step. -/
def perform (x : ThreadStep σ) (t : Thread σ) : Thread σ :=
  match x with
  | scope x => { t with session := x.perform t.session }
  | beginSection =>
    let (owns, s) := t.session.acquire
    { session := s, sections := owns :: t.sections }
  | endSection =>
    match t.sections with
    | [] => t
    | owns :: rest => { session := t.session.surrender owns, sections := rest }

/-- Whether a step needs the lock to be free: something is opened, if only for a time, and
nothing is open yet. A mutation that cannot be made is refused before a scope is opened. -/
def takesLock (x : ThreadStep σ) (t : Thread σ) : Bool :=
  t.session.depth == 0 &&
    match x with
    | scope (.activate a _) => a.mutation.fault?.isNone
    | scope (.compiler c _) => c.activation.mutation.fault?.isNone
    | beginSection => true
    | _ => false

/-- Whether a step opens a scope or a section, closes one, or does neither. -/
def effect (x : ThreadStep σ) (t : Thread σ) : Effect :=
  match x with
  | scope (.release index) =>
    match t.session.scopes[index]? with
    | some g => .closes g.ownsLock
    | none => .stays
  | scope x => if x.opens t.session then .opens else .stays
  | beginSection => .opens
  | endSection =>
    match t.sections with
    | [] => .stays
    | owns :: _ => .closes owns

/-- A step closes the owner of the lock, and something else stays open. -/
def ReleasesEarly (x : ThreadStep σ) (t : Thread σ) : Prop :=
  x.effect t = .closes true ∧ 1 < t.opened

instance (x : ThreadStep σ) (t : Thread σ) : Decidable (x.ReleasesEarly t) :=
  inferInstanceAs (Decidable (_ ∧ _))

end ThreadStep

open Session ThreadStep

/-- A section in which a thread goes through steps of its session is these steps run under
the lock. -/
theorem section_eq_withLock (t : Thread σ) (steps : List (ScopeStep σ)) :
    (endSection.perform
        ((steps.map scope).foldl (fun t x => x.perform t) (beginSection.perform t))).session =
      (t.session.withLock fun s => ((), s.run steps)).2 := by
  have hsteps : ∀ u : Thread σ, (steps.map scope).foldl (fun t x => x.perform t) u =
      { u with session := u.session.run steps } := by
    induction steps with
    | nil => exact fun _ => rfl
    | cons x rest ih => exact fun u => ih (x.perform u.session |> fun s => { u with session := s })
  rw [hsteps]
  rfl

/-! ## What a step does -/

/-- How a step with this effect changes what is open, the owners, the count and the lock. -/
def ThreadStep.Moved (t u : Thread σ) : Effect → Prop
  | .stays => u.opened = t.opened ∧ u.owners = t.owners ∧
      u.session.depth = t.session.depth ∧ u.session.locked = t.session.locked
  | .opens => u.opened = t.opened + 1 ∧
      u.owners = t.owners + (if t.session.depth = 0 then 1 else 0) ∧
      u.session.depth = t.session.depth + 1 ∧
      u.session.locked = (t.session.locked || t.session.depth == 0)
  | .closes owner => u.opened + 1 = t.opened ∧ u.owners + owner.toNat = t.owners ∧
      u.session.depth = t.session.depth - 1 ∧
      u.session.locked = (t.session.locked && !owner)

/-- Opening a scope takes the lock at depth zero. If that fails the lock is given back, and
is as it was if it was free. -/
theorem locked_openScope (a : Activation) (loader : Loader σ) {s : Session σ}
    (hfree : s.depth = 0 → a.mutation.fault? = none → s.locked = false) :
    (a.openScope loader s).2.locked =
      if (a.openScope loader s).1.isOk then s.locked || s.depth == 0 else s.locked := by
  cases hfault : a.mutation.fault? with
  | some fault =>
    simp only [Activation.openScope, Activation.enter_error_of_fault hfault]
    rfl
  | none =>
    have hsame := Activation.sameScopes_entered a loader a.modules s
    simp only [Activation.openScope, Activation.enter_of_no_fault hfault]
    split
    · next e t h =>
      split at h
      · next e' u hload =>
        rw [hload] at hsame
        obtain ⟨-, rfl⟩ := Prod.mk.inj h
        -- loading modules leaves the lock alone, so what is given back is what was taken
        have hu : u.locked = (s.locked || s.depth == 0) := hsame.locked
        show (u.locked && !(s.depth == 0)) = s.locked
        rw [hu]
        by_cases hdepth : s.depth = 0
        · rw [hfree hdepth hfault, Bool.false_or, Bool.and_not_self]
        · rw [beq_eq_false_iff_ne.2 hdepth, Bool.or_false, Bool.not_false, Bool.and_true]
      · cases h
    · next g t h =>
      split at h
      · cases h
      · next u hload =>
        rw [hload] at hsame
        obtain ⟨-, rfl⟩ := Prod.mk.inj h
        exact hsame.locked

/-- A step of opening a scope opens one at depth zero with the lock, or leaves all as it is. -/
theorem moved_openScope (t : Thread σ) (a : Activation) (loader : Loader σ)
    (hfree : t.session.depth = 0 → a.mutation.fault? = none → t.session.locked = false) :
    Moved t { t with session := (a.openScope loader t.session).2 }
      (if (a.openScope loader t.session).1.isOk then .opens else .stays) := by
  have hlocked := locked_openScope a loader hfree
  rcases ScopeStep.openScope_cases a loader t.session with
    ⟨hok, hscopes, hdepth⟩ | ⟨hok, hscopes, hdepth⟩
  · rw [hok, if_pos rfl] at hlocked ⊢
    refine ⟨?_, ?_, hdepth, hlocked⟩
    · show (a.openScope loader t.session).2.scopes.length + _ = _
      rw [hscopes, List.length_append, Thread.opened]
      simp only [List.length_singleton]
      omega
    · show (a.openScope loader t.session).2.scopes.countP Guard.ownsLock + _ = _
      rw [hscopes, List.countP_append, List.countP_singleton, Thread.owners]
      show _ + (if (t.session.depth == 0) = true then 1 else 0) + _ = _
      simp only [beq_iff_eq]
      omega
  · rw [hok, if_neg Bool.false_ne_true] at hlocked ⊢
    refine ⟨?_, ?_, hdepth, hlocked⟩
    · show (a.openScope loader t.session).2.scopes.length + _ = _
      rw [hscopes]
      rfl
    · show (a.openScope loader t.session).2.scopes.countP Guard.ownsLock + _ = _
      rw [hscopes]
      rfl

/-- Closing a scope takes it out of the count, and gives the lock back if it owns it. -/
theorem moved_releaseAt {t : Thread σ} {index : Nat} {g : Guard}
    (h : t.session.scopes[index]? = some g) :
    Moved t { t with session := (ScopeStep.release index).perform t.session }
      (.closes g.ownsLock) := by
  obtain ⟨hlt, hg⟩ := List.getElem?_eq_some_iff.1 h
  have hperform : (ScopeStep.release index).perform t.session =
      { t.session with scopes := t.session.scopes.eraseIdx index }.leave g := by
    show (t.session.releaseAt index).getD t.session = _
    rw [releaseAt, h]
    rfl
  have hlength := List.length_eraseIdx_add_one hlt
  have hperm : (g :: t.session.scopes.eraseIdx index).Perm t.session.scopes :=
    hg ▸ List.getElem_cons_eraseIdx_perm hlt
  rw [hperform]
  refine ⟨?_, ?_, rfl, rfl⟩
  · show (t.session.scopes.eraseIdx index).length + t.sections.length + 1 = t.opened
    rw [Thread.opened, ← hlength]
    omega
  · show (t.session.scopes.eraseIdx index).countP Guard.ownsLock + t.sections.countP id
      + g.ownsLock.toNat = t.owners
    rw [Thread.owners, ← hperm.countP_eq, List.countP_cons]
    cases g.ownsLock <;> simp; omega

/-- All that a step does to what is open, to the owners, to the count and to the lock. A step
that takes the lock has to find it free. -/
theorem moved_perform {x : ThreadStep σ} {t : Thread σ}
    (hfree : x.takesLock t = true → t.session.locked = false) :
    Moved t (x.perform t) (x.effect t) := by
  cases x with
  | scope x =>
    cases x with
    | activate a loader =>
      refine moved_openScope t a loader fun hdepth hfault => hfree ?_
      simp [takesLock, hdepth, hfault]
    | compiler c loader =>
      refine moved_openScope t c.activation loader fun hdepth hfault => hfree ?_
      simp [takesLock, hdepth, hfault]
    | set name value => exact ⟨rfl, rfl, rfl, rfl⟩
    | unset name => exact ⟨rfl, rfl, rfl, rfl⟩
    | release index =>
      simp only [effect]
      split
      · next g hg => exact moved_releaseAt hg
      · next hnone =>
        -- there is no scope at this index, and nothing happens
        have hperform : (scope (.release index)).perform t = t := by
          show { t with session := (t.session.releaseAt index).getD t.session } = t
          rw [releaseAt, hnone]
          rfl
        rw [hperform]
        exact ⟨rfl, rfl, rfl, rfl⟩
  | beginSection =>
    refine ⟨?_, ?_, rfl, rfl⟩
    · show t.session.scopes.length + ((t.session.depth == 0) :: t.sections).length = _
      rw [List.length_cons, Thread.opened]
      omega
    · show t.session.scopes.countP Guard.ownsLock
        + ((t.session.depth == 0) :: t.sections).countP id = _
      rw [List.countP_cons, Thread.owners]
      simp only [id, beq_iff_eq]
      omega
  | endSection =>
    simp only [effect, perform]
    split
    · exact ⟨rfl, rfl, rfl, rfl⟩
    · next owns rest hsections =>
      refine ⟨?_, ?_, rfl, rfl⟩
      · show t.session.scopes.length + rest.length + 1 = _
        rw [Thread.opened, hsections, List.length_cons]
        omega
      · show t.session.scopes.countP Guard.ownsLock + rest.countP id + owns.toNat = _
        rw [Thread.owners, hsections, List.countP_cons]
        cases owns <;> simp; omega

/-- An activation that opens a scope has a mutation that can be made. -/
theorem fault?_eq_none_of_openScope {a : Activation} {loader : Loader σ} {s : Session σ}
    (h : (a.openScope loader s).1.isOk = true) : a.mutation.fault? = none := by
  cases hfault : a.mutation.fault? with
  | none => rfl
  | some fault =>
    simp only [Activation.openScope, Activation.enter_error_of_fault hfault] at h
    cases h

/-- What is opened at depth zero takes the lock. -/
theorem takesLock_of_opens {x : ThreadStep σ} {t : Thread σ} (h : x.effect t = .opens)
    (hdepth : t.session.depth = 0) : x.takesLock t = true := by
  cases x with
  | beginSection => simp [takesLock, hdepth]
  | endSection =>
    simp only [effect] at h
    split at h <;> cases h
  | scope x =>
    cases x with
    | activate a loader =>
      -- a scope that is opened has passed the check that comes before the lock
      have hopens : (ScopeStep.activate a loader).opens t.session = true := by
        by_contra hnot
        exact absurd (h.symm.trans (if_neg hnot)) (by decide)
      simp [takesLock, hdepth, fault?_eq_none_of_openScope hopens]
    | compiler c loader =>
      have hopens : (ScopeStep.compiler c loader).opens t.session = true := by
        by_contra hnot
        exact absurd (h.symm.trans (if_neg hnot)) (by decide)
      simp [takesLock, hdepth, fault?_eq_none_of_openScope hopens]
    | set name value => cases h
    | unset name => cases h
    | release index =>
      simp only [effect] at h
      split at h <;> cases h

/-! ## Counting -/

namespace Thread

/-- The depth counts what is open, and at most one thing owns the lock. -/
structure Counted (t : Thread σ) : Prop where
  depth : t.session.depth = t.opened
  owners_le : t.owners ≤ 1

namespace Counted

variable {x : ThreadStep σ} {t : Thread σ}

/-- Every step counts right: a new owner comes only where nothing was open. -/
theorem perform (h : t.Counted) (hfree : x.takesLock t = true → t.session.locked = false) :
    (x.perform t).Counted := by
  have hmoved := moved_perform hfree
  have hle := t.owners_le_opened
  obtain ⟨hdepth, howners⟩ := h
  cases heffect : x.effect t with
  | stays =>
    rw [heffect] at hmoved
    obtain ⟨hopened', howners', hdepth', -⟩ := hmoved
    exact ⟨by omega, by omega⟩
  | opens =>
    rw [heffect] at hmoved
    obtain ⟨hopened', howners', hdepth', -⟩ := hmoved
    refine ⟨by omega, ?_⟩
    split at howners' <;> omega
  | closes owner =>
    rw [heffect] at hmoved
    obtain ⟨hopened', howners', hdepth', -⟩ := hmoved
    exact ⟨by omega, by omega⟩

/-- A step takes the lock, which was free, or gives it back, or changes nothing about it. -/
theorem holds_cases (h : t.Counted)
    (hfree : x.takesLock t = true → t.session.locked = false) :
    (t.session.locked = false ∧ (x.perform t).Holds ∧ (x.perform t).session.locked = true) ∨
      (t.Holds ∧ ¬ (x.perform t).Holds ∧ (x.perform t).session.locked = false) ∨
      (((x.perform t).Holds ↔ t.Holds) ∧
        (x.perform t).session.locked = t.session.locked) := by
  have hmoved := moved_perform hfree
  have hle := h.owners_le
  unfold Holds
  cases heffect : x.effect t with
  | stays =>
    rw [heffect] at hmoved
    obtain ⟨-, howners, -, hlocked⟩ := hmoved
    exact .inr (.inr ⟨by rw [howners], hlocked⟩)
  | opens =>
    rw [heffect] at hmoved
    obtain ⟨-, howners, -, hlocked⟩ := hmoved
    by_cases hdepth : t.session.depth = 0
    · rw [if_pos hdepth] at howners
      refine .inl ⟨hfree (takesLock_of_opens heffect hdepth), by omega, ?_⟩
      rw [hlocked, beq_iff_eq.2 hdepth, Bool.or_true]
    · rw [if_neg hdepth] at howners
      refine .inr (.inr ⟨by rw [howners]; rfl, ?_⟩)
      rw [hlocked, beq_eq_false_iff_ne.2 hdepth, Bool.or_false]
  | closes owner =>
    rw [heffect] at hmoved
    obtain ⟨-, howners, -, hlocked⟩ := hmoved
    cases owner with
    | true =>
      rw [Bool.toNat_true] at howners
      exact .inr (.inl ⟨by omega, by omega, by rw [hlocked]; exact Bool.and_false _⟩)
    | false =>
      have hsame : (x.perform t).owners = t.owners := howners
      exact .inr (.inr ⟨by rw [hsame], by rw [hlocked]; exact Bool.and_true _⟩)

/-- A thread that holds the lock exactly while something is open goes on doing so after a
step, unless the step closes the owner and something else stays open. -/
theorem covered_perform_iff (h : t.Counted) (hcovered : t.Covered)
    (hfree : x.takesLock t = true → t.session.locked = false) :
    (x.perform t).Covered ↔ ¬ x.ReleasesEarly t := by
  have hmoved := moved_perform hfree
  have hle := t.owners_le_opened
  obtain ⟨hdepth, howners⟩ := h
  unfold Covered Holds ReleasesEarly at *
  cases heffect : x.effect t with
  | stays =>
    rw [heffect] at hmoved
    obtain ⟨hopened', howners', -, -⟩ := hmoved
    simp [hopened', howners', hcovered]
  | opens =>
    rw [heffect] at hmoved
    obtain ⟨hopened', howners', -, -⟩ := hmoved
    have hholds : (x.perform t).owners ≠ 0 := by
      split at howners' <;> omega
    simp [hopened', hholds]
  | closes owner =>
    rw [heffect] at hmoved
    obtain ⟨hopened', howners', -, -⟩ := hmoved
    cases owner with
    | true =>
      have hnone : (x.perform t).owners = 0 := by
        rw [Bool.toNat_true] at howners'
        omega
      simp only [hnone, true_and]
      omega
    | false =>
      -- the owner is still open, and so something is
      have hsame : (x.perform t).owners = t.owners := howners'
      have hle' := (x.perform t).owners_le_opened
      simp only [hsame, Effect.closes.injEq, Bool.false_eq_true, false_and, not_false_eq_true,
        iff_true]
      omega

end Counted

end Thread

end Toolchain
