import Toolchain.Proofs.Environment.Lock

/-!
# Threads and the lock

The threads of a process share its environment, what is outside of it, and the lock; each has
its own scopes and sections, and counts its own depth. A step that needs the lock while
another thread has it waits: nothing happens.

The owner of the lock is whatever a thread opened first. A thread that closes it while
something else is open gives the lock back early, and goes on inside a scope without it;
then the scopes of two threads can overlap. Nothing else loses the lock.

  * `Threads.perform`, `Threads.run` — steps of any threads in any order.
  * `Threads.ReleasedEarly` — a thread closes the owner of the lock while something else of
    it is open.

## Main statements

  * `Kept.perform` — the lock is taken exactly if a thread holds it, and at most one does.
  * `Kept.coveredAlong_iff` — a thread holds the lock exactly while something of it is open,
    all along a run, unless it releases the lock early.
  * `covered_iff_not_released_early` — the same for all threads of a process, which then
    exclude each other.
-/

namespace Toolchain

variable {σ : Type}

/-! ## Processes with threads -/

/-- The threads of a process. What a session has of the environment, of the outside and of
the lock counts only while its thread makes a step. -/
structure Threads (σ : Type) where
  env : Environment
  outside : σ
  locked : Bool := false
  of : Nat → Thread σ

namespace Threads

/-- A process in which no thread has done anything. -/
def start (env : Environment) (outside : σ) : Threads σ :=
  { env, outside, of := fun _ => { session := .start env outside } }

/-- A thread with what it shares with the others as it is now. -/
def view (p : Threads σ) (i : Nat) : Thread σ :=
  { p.of i with
    session := { (p.of i).session with env := p.env, outside := p.outside, locked := p.locked } }

/-- Puts a thread back after it has made a step. -/
def put (p : Threads σ) (i : Nat) (t : Thread σ) : Threads σ :=
  { env := t.session.env
    outside := t.session.outside
    locked := t.session.locked
    of := fun j => if j = i then t else p.of j }

/-- The process after a step of a thread. -/
def perform (p : Threads σ) (i : Nat) (x : ThreadStep σ) : Threads σ :=
  if x.takesLock (p.view i) && p.locked then p else p.put i (x.perform (p.view i))

/-- The process after steps, each with the thread that makes it. -/
def run (p : Threads σ) (steps : List (Nat × ThreadStep σ)) : Threads σ :=
  steps.foldl (fun p e => p.perform e.1 e.2) p

@[simp] theorem of_put_self (p : Threads σ) (i : Nat) (t : Thread σ) : (p.put i t).of i = t :=
  if_pos rfl

@[simp] theorem of_put_ne {i j : Nat} (h : j ≠ i) (p : Threads σ) (t : Thread σ) :
    (p.put i t).of j = p.of j :=
  if_neg h

@[simp] theorem run_nil (p : Threads σ) : p.run [] = p := rfl

@[simp] theorem run_cons (p : Threads σ) (e : Nat × ThreadStep σ)
    (steps : List (Nat × ThreadStep σ)) : p.run (e :: steps) = (p.perform e.1 e.2).run steps :=
  rfl

/-- A step waits for the lock and changes nothing, or it does not have to wait for it. -/
theorem perform_cases (p : Threads σ) (i : Nat) (x : ThreadStep σ) :
    (x.takesLock (p.view i) = true ∧ p.perform i x = p) ∨
      ((x.takesLock (p.view i) = true → p.locked = false) ∧
        p.perform i x = p.put i (x.perform (p.view i))) := by
  unfold perform
  cases htakes : x.takesLock (p.view i) <;> cases hlocked : p.locked <;> simp

/-! ## Who has the lock -/

/-- Every thread counts right. The lock is taken exactly if a thread holds it, and at most
one thread does. -/
structure Kept (p : Threads σ) : Prop where
  counted : ∀ i, (p.of i).Counted
  locked_iff : p.locked = true ↔ ∃ i, (p.of i).Holds
  exclusive : ∀ i j, (p.of i).Holds → (p.of j).Holds → i = j

/-- Who holds the lock after a thread is put back. -/
theorem holds_put_iff {p : Threads σ} {i j : Nat} {t : Thread σ} :
    ((p.put i t).of j).Holds ↔ (j = i ∧ t.Holds) ∨ (j ≠ i ∧ (p.of j).Holds) := by
  by_cases hj : j = i
  · simp [hj]
  · simp [hj]

theorem kept_start (env : Environment) (outside : σ) : (start env outside).Kept where
  counted _ := ⟨rfl, Nat.zero_le 1⟩
  locked_iff := ⟨fun h => absurd h Bool.false_ne_true, fun ⟨_, h⟩ => absurd rfl h⟩
  exclusive _ _ h := absurd rfl h

namespace Kept

variable {p : Threads σ}

theorem counted_view (h : p.Kept) (i : Nat) : (p.view i).Counted :=
  ⟨(h.counted i).depth, (h.counted i).owners_le⟩

/-- A step of a thread that does not have to wait keeps what is said about the lock. -/
theorem put (h : p.Kept) {i : Nat} {x : ThreadStep σ}
    (hfree : x.takesLock (p.view i) = true → p.locked = false) :
    (p.put i (x.perform (p.view i))).Kept := by
  have hcounted : ∀ j, ((p.put i (x.perform (p.view i))).of j).Counted := by
    intro j
    by_cases hj : j = i
    · rw [hj, of_put_self]
      exact (h.counted_view i).perform hfree
    · rw [of_put_ne hj]
      exact h.counted j
  rcases (h.counted_view i).holds_cases hfree with
    ⟨hwas, hholds, hlocked⟩ | ⟨hheld, hgone, hlocked⟩ | ⟨hiff, hlocked⟩
  · -- the lock was free, so no thread held it, and now this one does
    have honly : ∀ j, ((p.put i (x.perform (p.view i))).of j).Holds ↔ j = i := by
      intro j
      have hnot : ¬ (p.of j).Holds := fun hj =>
        Bool.false_ne_true (hwas.symm.trans (h.locked_iff.2 ⟨j, hj⟩))
      simp [holds_put_iff, hholds, hnot]
    exact ⟨hcounted, ⟨fun _ => ⟨i, (honly i).2 rfl⟩, fun _ => hlocked⟩,
      fun j k hj hk => ((honly j).1 hj).trans ((honly k).1 hk).symm⟩
  · -- it was this thread that held the lock, so no other one does
    have hnone : ∀ j, ¬ ((p.put i (x.perform (p.view i))).of j).Holds := by
      intro j hj
      rcases holds_put_iff.1 hj with ⟨-, hi⟩ | ⟨hne, hj⟩
      · exact hgone hi
      · exact hne (h.exclusive j i hj hheld)
    refine ⟨hcounted, ⟨fun hl => ?_, fun ⟨j, hj⟩ => absurd hj (hnone j)⟩,
      fun j _ hj => absurd hj (hnone j)⟩
    exact absurd (hlocked.symm.trans hl) Bool.false_ne_true
  · -- who holds the lock does not change
    have hsame : ∀ j, ((p.put i (x.perform (p.view i))).of j).Holds ↔ (p.of j).Holds := by
      intro j
      by_cases hj : j = i
      · rw [hj, of_put_self]
        exact hiff
      · rw [of_put_ne hj]
    refine ⟨hcounted, ?_, fun j k hj hk => h.exclusive j k ((hsame j).1 hj) ((hsame k).1 hk)⟩
    show (x.perform (p.view i)).session.locked = true ↔ _
    rw [hlocked]
    exact h.locked_iff.trans (exists_congr fun j => (hsame j).symm)

theorem perform (h : p.Kept) (i : Nat) (x : ThreadStep σ) : (p.perform i x).Kept := by
  rcases perform_cases p i x with ⟨-, heq⟩ | ⟨hfree, heq⟩
  · rw [heq]
    exact h
  · rw [heq]
    exact h.put hfree

/-- A step of a thread keeps it holding the lock exactly while something of it is open, unless
the step releases the lock early. -/
theorem covered_perform_iff (h : p.Kept) {i : Nat} (hcovered : (p.of i).Covered)
    (x : ThreadStep σ) :
    ((p.perform i x).of i).Covered ↔ ¬ x.ReleasesEarly (p.view i) := by
  have hview : (p.view i).Covered := hcovered
  rcases perform_cases p i x with ⟨htakes, heq⟩ | ⟨hfree, heq⟩
  · -- a step that waits needs the lock, so nothing of the thread is open
    have hdepth : (p.of i).session.depth = 0 := by
      have := (Bool.and_eq_true_iff.1 htakes).1
      exact beq_iff_eq.1 this
    have hopened : (p.view i).opened = 0 := (h.counted i).depth.symm.trans hdepth
    rw [heq]
    refine iff_of_true hcovered fun hearly => ?_
    have := hearly.2
    omega
  · rw [heq, of_put_self]
    exact (h.counted_view i).covered_perform_iff hview hfree

/-- The steps of other threads make no difference. -/
theorem of_perform_ne {i j : Nat} (hj : i ≠ j) (x : ThreadStep σ) :
    (p.perform j x).of i = p.of i := by
  rcases perform_cases p j x with ⟨-, heq⟩ | ⟨-, heq⟩
  · rw [heq]
  · rw [heq, of_put_ne hj]

end Kept

/-! ## Whole runs -/

/-- Somewhere in a run a thread closes the owner of the lock while something else of it is
open. -/
def ReleasedEarly (p : Threads σ) (steps : List (Nat × ThreadStep σ)) (i : Nat) : Prop :=
  ∃ earlier x later, steps = earlier ++ (i, x) :: later ∧
    x.ReleasesEarly ((p.run earlier).view i)

/-- A thread holds the lock exactly while something of it is open, all along a run. -/
def CoveredAlong (p : Threads σ) (steps : List (Nat × ThreadStep σ)) (i : Nat) : Prop :=
  ∀ earlier, earlier <+: steps → ((p.run earlier).of i).Covered

theorem coveredAlong_cons {p : Threads σ} {e : Nat × ThreadStep σ}
    {steps : List (Nat × ThreadStep σ)} {i : Nat} (hcovered : (p.of i).Covered) :
    CoveredAlong p (e :: steps) i ↔ CoveredAlong (p.perform e.1 e.2) steps i := by
  constructor
  · exact fun h earlier hprefix => h (e :: earlier) (List.cons_prefix_cons.2 ⟨rfl, hprefix⟩)
  · intro h earlier hprefix
    cases earlier with
    | nil => exact hcovered
    | cons e' earlier =>
      obtain ⟨rfl, hrest⟩ := List.cons_prefix_cons.1 hprefix
      exact h earlier hrest

theorem releasedEarly_cons {p : Threads σ} {e : Nat × ThreadStep σ}
    {steps : List (Nat × ThreadStep σ)} {i : Nat} :
    ReleasedEarly p (e :: steps) i ↔
      (e.1 = i ∧ e.2.ReleasesEarly (p.view i)) ∨
        ReleasedEarly (p.perform e.1 e.2) steps i := by
  constructor
  · rintro ⟨earlier, x, later, heq, hearly⟩
    cases earlier with
    | nil =>
      obtain ⟨rfl, -⟩ := List.cons_eq_cons.1 heq
      exact .inl ⟨rfl, hearly⟩
    | cons e' earlier =>
      obtain ⟨rfl, rfl⟩ := List.cons_eq_cons.1 heq
      exact .inr ⟨earlier, x, later, rfl, hearly⟩
  · rintro (⟨rfl, hearly⟩ | ⟨earlier, x, later, rfl, hearly⟩)
    · exact ⟨[], e.2, steps, rfl, hearly⟩
    · exact ⟨e :: earlier, x, later, rfl, hearly⟩

/-- A thread that starts out so holds the lock exactly while something of it is open, all
along a run, unless it releases the lock early. -/
theorem Kept.coveredAlong_iff {p : Threads σ} (h : p.Kept) {i : Nat}
    (hcovered : (p.of i).Covered) (steps : List (Nat × ThreadStep σ)) :
    CoveredAlong p steps i ↔ ¬ ReleasedEarly p steps i := by
  induction steps generalizing p with
  | nil =>
    refine iff_of_true (fun earlier hprefix => ?_) ?_
    · rw [List.prefix_nil.1 hprefix]
      exact hcovered
    · rintro ⟨earlier, x, later, heq, -⟩
      simp at heq
  | cons e rest ih =>
    obtain ⟨j, x⟩ := e
    rw [coveredAlong_cons hcovered, releasedEarly_cons, not_or]
    by_cases hj : j = i
    · subst hj
      by_cases hearly : x.ReleasesEarly (p.view j)
      · -- after an early release the thread is not covered
        refine iff_of_false (fun hall => ?_) fun hnot => hnot.1 ⟨rfl, hearly⟩
        exact (h.covered_perform_iff hcovered x).1 (hall [] List.nil_prefix) hearly
      · rw [ih (h.perform j x) ((h.covered_perform_iff hcovered x).2 hearly)]
        exact ⟨fun hrest => ⟨fun hnow => hearly hnow.2, hrest⟩, And.right⟩
    · have hsame : (p.perform j x).of i = p.of i := of_perform_ne (Ne.symm hj) x
      rw [ih (h.perform j x) (hsame ▸ hcovered)]
      exact ⟨fun hrest => ⟨fun hnow => hj hnow.1, hrest⟩, And.right⟩

theorem Kept.run {p : Threads σ} (h : p.Kept) (steps : List (Nat × ThreadStep σ)) :
    (p.run steps).Kept := by
  induction steps generalizing p with
  | nil => exact h
  | cons e rest ih => exact ih (h.perform e.1 e.2)

/-- Threads of a process go through any steps. Each of them counts right, and does not hold
the lock when nothing of it is open; the lock is taken exactly if a thread holds it. A thread
holds the lock exactly while something of it is open, all along the run, if and only if it
never closes the owner of the lock while something else of it is open. If no thread ever does
that, at most one thread has something open. -/
theorem covered_iff_not_released_early (env : Environment) (outside : σ)
    (steps : List (Nat × ThreadStep σ)) :
    let start := Threads.start env outside
    let p := start.run steps
    (∀ i, (p.of i).session.depth = (p.of i).opened ∧ ((p.of i).opened = 0 → ¬ (p.of i).Holds)) ∧
      (p.locked = true ↔ ∃ i, (p.of i).Holds) ∧
      (∀ i, CoveredAlong start steps i ↔ ¬ ReleasedEarly start steps i) ∧
      ((∀ i, ¬ ReleasedEarly start steps i) →
        ∀ i j, (p.of i).opened ≠ 0 → (p.of j).opened ≠ 0 → i = j) := by
  intro start p
  have hstart : start.Kept := kept_start env outside
  have hp : p.Kept := hstart.run steps
  have hcovered : ∀ i, CoveredAlong start steps i ↔ ¬ ReleasedEarly start steps i :=
    fun i => hstart.coveredAlong_iff (iff_of_false (absurd rfl) (absurd rfl)) steps
  refine ⟨fun i => ⟨(hp.counted i).depth, fun hnone hholds => ?_⟩, hp.locked_iff, hcovered, ?_⟩
  · have hle := (p.of i).owners_le_opened
    rw [hnone] at hle
    exact hholds (Nat.le_zero.1 hle)
  · intro hnever i j hi hj
    have hholds : ∀ k, (p.of k).opened ≠ 0 → (p.of k).Holds := fun k hk =>
      ((hcovered k).2 (hnever k) steps List.prefix_rfl).1 hk
    exact hp.exclusive i j (hholds i hi) (hholds j hj)

/-- A thread opens two scopes and closes the older one first. Then it is inside a scope
without the lock, and another thread opens a scope too; closing the first thread's scope
takes away what the other one has set. -/
theorem scopes_overlap_after_early_release :
    let opening (name : String) : ThreadStep Unit :=
      .scope (.activate { compiler := "gcc@13", mutation := { set := .ofList [(name, "1")] } }
        fun _ _ _ u => (.error "", u))
    let closing : ThreadStep Unit := .scope (.release 0)
    let p := (start ∅ ()).run [(0, opening "A"), (0, opening "B"), (0, closing)]
    let q := p.perform 1 (opening "C")
    ¬ (p.of 0).Covered ∧ (p.of 0).opened = 1 ∧ ¬ (p.of 0).Holds ∧ p.locked = false ∧
      (q.of 0).opened = 1 ∧ (q.of 1).opened = 1 ∧ q.env.get? "C" = some "1" ∧
      ((q.perform 0 closing).of 1).opened = 1 ∧ (q.perform 0 closing).env.get? "C" = none := by
  decide +kernel

end Threads

end Toolchain
