import Toolchain.Environment.Variables
import Toolchain.Log

/-!
# Environment scopes

A session is a process with its environment, in which scopes are opened and closed. A scope
saves the environment when it is opened (`Guard.saved`) and puts it back when it is closed
(`restore`). Scopes may be closed in any order.

## The lock

Only one thread at a time may have scopes. A counter (`depth`) counts the open scopes; the
scope that is opened at depth zero takes the lock and owns it (`Guard.ownsLock`), the others
do not. Closing the owner gives the lock back.

## What is modelled

  * `Session.enter`, `Session.leave` — open and close; the log and what is outside the
    process are kept.
  * `Session.releaseLast`, `Session.releaseAt`, `Session.releaseAll` — over the list of open
    scopes, the oldest first.

Waiting for a lock that another thread holds is not: there is one thread.

## Main statements

`restore_eq` — restoring gives back exactly the saved environment, whatever it has become.
-/

namespace Toolchain

/-! ## Restoring -/

/-- Removes the variables that were not there. -/
def pruneTo (saved env : Environment) : List String → Environment
  | [] => env
  | k :: ks => pruneTo saved (if saved.contains k then env else env.erase k) ks

/-- Gives variables their old values, where they differ. -/
def putBack (env : Environment) : List (String × String) → Environment
  | [] => env
  | (k, v) :: rest => putBack (if env.get? k = some v then env else env.insert k v) rest

/-- The environment with everything undone since it was saved: variables that were added go,
the others get their values back. -/
def restore (saved env : Environment) : Environment :=
  putBack (pruneTo saved env env.keys) saved.toList

theorem get?_pruneTo_eq_none {saved : Environment} {k : String}
    (h : saved.contains k = false) (env : Environment) (ks : List String)
    (hk : k ∈ ks ∨ env.get? k = none) : (pruneTo saved env ks).get? k = none := by
  induction ks generalizing env with
  | nil => simpa [pruneTo] using hk
  | cons a ks ih =>
    rw [pruneTo]
    apply ih
    by_cases hka : k = a
    · subst hka
      right
      simp [h]
    · rcases hk with hk | hk
      · exact .inl ((List.mem_cons.1 hk).resolve_left hka)
      · right
        split
        · exact hk
        · rw [Dict.get?_erase_ne hka, hk]

theorem get?_putBack_of_mem {k v : String} {es : List (String × String)}
    (hs : KeySorted es) (h : (k, v) ∈ es) (env : Environment) :
    (putBack env es).get? k = some v := by
  induction es generalizing env with
  | nil => simp at h
  | cons a rest ih =>
    have ha := List.pairwise_cons.1 hs
    rw [putBack]
    rcases List.mem_cons.1 h with rfl | h
    · have hrest : ∀ env : Environment, env.get? k = some v →
          (putBack env rest).get? k = some v := by
        have hne : ∀ e ∈ rest, k ≠ e.1 := fun e he hke =>
          String.lt_irrefl k (by simpa [← hke] using ha.1 e he)
        clear ih ha hs h
        induction rest with
        | nil => exact fun _ h => h
        | cons b rest ih =>
          intro env he
          rw [putBack]
          refine ih (fun e he => hne e (List.mem_cons_of_mem _ he)) _ ?_
          have hkb := hne b (List.mem_cons_self ..)
          split
          · exact he
          · rw [Dict.get?_insert_ne hkb, he]
      apply hrest
      split
      · assumption
      · simp
    · exact ih ha.2 h _

theorem get?_putBack_of_ne {k : String} {es : List (String × String)}
    (h : ∀ e ∈ es, k ≠ e.1) (env : Environment) : (putBack env es).get? k = env.get? k := by
  induction es generalizing env with
  | nil => rfl
  | cons a rest ih =>
    rw [putBack, ih (fun e he => h e (List.mem_cons_of_mem _ he))]
    split
    · rfl
    · rw [Dict.get?_insert_ne (h a (List.mem_cons_self ..))]

/-- A variable that an environment has is among its keys. -/
theorem Dict.mem_keys_or_get?_eq_none {α : Type} (d : Dict α) (k : String) :
    k ∈ d.keys ∨ d.get? k = none := by
  cases h : d.get? k with
  | none => exact .inr rfl
  | some v =>
    left
    have := Dict.get?_eq_some_iff.1 h
    exact List.mem_map.2 ⟨(k, v), this, rfl⟩

/-- Restoring gives back exactly what was saved. -/
theorem restore_eq (saved env : Environment) : restore saved env = saved := by
  apply Dict.ext_get?
  intro k
  unfold restore
  cases h : saved.get? k with
  | some v => exact get?_putBack_of_mem saved.sorted (Dict.get?_eq_some_iff.1 h) _
  | none =>
    rw [get?_putBack_of_ne]
    · exact get?_pruneTo_eq_none (by simp [Dict.contains, h]) _ _
        (Dict.mem_keys_or_get?_eq_none env k)
    · rintro ⟨k', v⟩ he rfl
      rw [Dict.get?_eq_some_iff.2 he] at h
      cases h

/-! ## The session -/

/-- What an open scope keeps. -/
structure Guard where
  saved : Environment
  ownsLock : Bool
  deriving DecidableEq

/-- A guard as it is shown. -/
def Guard.text (g : Guard) : String :=
  "EnvironmentGuard \x7b saved_vars: " ++ toString g.saved.size ++ " \x7d"

/-- A process: its environment, the scopes and the lock, what it logged (the latest first),
and the state of what is outside it. -/
structure Session (σ : Type) where
  env : Environment
  depth : Nat := 0
  locked : Bool := false
  scopes : List Guard := []
  log : List LogLine := []
  outside : σ

namespace Session

variable {σ : Type}

/-- A process without scopes. -/
def start (env : Environment) (outside : σ) : Session σ := { env, outside }

/-- Adds a line to the log. -/
def note (s : Session σ) (level : LogLevel) (text : String) : Session σ :=
  { s with log := ⟨level, text⟩ :: s.log }

/-- Adds a debug line to the log. -/
def debug (s : Session σ) (text : String) : Session σ := s.note .debug text

/-! ## The lock -/

/-- Counts one scope more, and takes the lock if it is the first. -/
def acquire (s : Session σ) : Bool × Session σ :=
  let owns := s.depth == 0
  (owns, { s with depth := s.depth + 1, locked := s.locked || owns })

/-- Counts one scope less, and gives the lock back if the scope owned it. -/
def surrender (s : Session σ) (owns : Bool) : Session σ :=
  { s with depth := s.depth - 1, locked := s.locked && !owns }

/-- Runs something under the lock without opening a scope. -/
def withLock {α : Type} (s : Session σ) (read : Session σ → α × Session σ) : α × Session σ :=
  let (owns, s) := s.acquire
  let (x, s) := read s
  (x, s.surrender owns)

/-! ## Scopes -/

/-- Saves the environment. -/
def enter (s : Session σ) : Guard × Session σ :=
  let (owns, s) := s.acquire
  (⟨s.env, owns⟩, s)

/-- Puts the saved environment back. -/
def leave (s : Session σ) (g : Guard) : Session σ :=
  { s with env := restore g.saved s.env }.surrender g.ownsLock

/-- Keeps a scope open. -/
def keep (s : Session σ) (g : Guard) : Session σ := { s with scopes := s.scopes ++ [g] }

/-- Closes the open scope at a place, counted from the oldest; none if there is none. -/
def releaseAt (s : Session σ) (index : Nat) : Option (Session σ) :=
  match s.scopes[index]? with
  | none => none
  | some g => some ({ s with scopes := s.scopes.eraseIdx index }.leave g)

/-- Closes the scope that was opened last. -/
def releaseLast (s : Session σ) : Option (Session σ) :=
  match s.scopes with
  | [] => none
  | _ :: rest => s.releaseAt rest.length

/-- Closes scopes, the newest first: the guards are given in that order. -/
def leaveAll (s : Session σ) : List Guard → Session σ
  | [] => s
  | g :: rest => (s.leave g).leaveAll rest

/-- Closes all open scopes, the newest first. -/
def releaseAll (s : Session σ) : Session σ :=
  { s with scopes := [] }.leaveAll s.scopes.reverse

/-- Changes variables. -/
def change (s : Session σ) (cs : List Change) : Session σ :=
  { s with env := s.env.changeAll cs }

@[simp] theorem env_leave (s : Session σ) (g : Guard) : (s.leave g).env = g.saved :=
  restore_eq g.saved s.env

@[simp] theorem saved_enter (s : Session σ) : s.enter.1.saved = s.env := rfl

end Session

end Toolchain
