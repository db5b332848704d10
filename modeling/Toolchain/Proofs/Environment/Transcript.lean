import Toolchain.Proofs.Environment.View
import Toolchain.Proofs.Environment.Validity

/-!
# Transcripts of activations

What a loader is asked and what it answers can be written down, the first exchange first. An
activation goes the same way with a transcript as without one.

  * `Exchange` — one call of a loader: what was asked, in which environment, and the answer.
  * `Exchange.changes` — the changes that are made because of a call; showing makes none.
  * `Exchange.Passes` — the activation goes on after a call.
  * `Loader.transcribed`, `Session.transcript` — a loader with a transcript, and what was
    written down.
  * `Dialogue` — how exchanges go from an environment on.

## Main statements

  * `Dialogue.append` — one dialogue after another.
  * `Dialogue.ok_iff`, `Dialogue.exists_last` — a dialogue ends well exactly if every call
    passes, and else at the first one that does not.
  * `Dialogue.env_of_split`, `Dialogue.last_env` — what a call sees, and what is left at the
    end, are the changes of the calls before.
  * `asks_perform`, `asks_display` — one call is a dialogue.
-/

namespace Toolchain

variable {σ : Type}

/-! ## Exchanges -/

/-- A call of a loader, with the environment that it saw and the answer that it gave. -/
structure Exchange where
  verb : ModuleVerb
  name : String
  env : Environment
  answer : Except String ModuleEffect

namespace Exchange

/-- What was asked. -/
def call (x : Exchange) : ModuleVerb × String := (x.verb, x.name)

/-- The changes that are made because of a call: those that a load or an unload answers. What
is shown changes nothing, whatever is answered. -/
def changes (x : Exchange) : List Change :=
  match x.verb, x.answer with
  | .display, _ => []
  | _, .ok effect => effect.changes
  | _, .error _ => []

/-- The activation goes on after a call: it did not fail, and its changes can be made. -/
structure Passes (x : Exchange) : Prop where
  answered : ∃ effect, x.answer = .ok effect
  settable : ∀ c ∈ x.changes, SettableName c.1 ∧ ∀ v, c.2 = some v → SettableValue v

variable {x : Exchange}

theorem changes_of_display (hverb : x.verb = .display) : x.changes = [] := by
  unfold changes
  rw [hverb]

theorem changes_of_ok (hverb : x.verb ≠ .display) {effect : ModuleEffect}
    (hanswer : x.answer = .ok effect) : x.changes = effect.changes := by
  unfold changes
  rw [hanswer]
  cases hx : x.verb with
  | display => exact absurd hx hverb
  | load => rfl
  | unload => rfl

theorem not_passes_of_error {message : String} (hanswer : x.answer = .error message) :
    ¬ x.Passes := by
  intro hpasses
  obtain ⟨effect, heffect⟩ := hpasses.answered
  rw [hanswer] at heffect
  cases heffect

/-- The changes of a call can be made if none of them has a fault. -/
theorem findSome?_fault_eq_none {cs : List Change} :
    (cs.findSome? fun c => variableFault? c.1 c.2) = none ↔
      ∀ c ∈ cs, SettableName c.1 ∧ ∀ v, c.2 = some v → SettableValue v := by
  rw [List.findSome?_eq_none_iff]
  exact forall₂_congr fun c _ => variableFault?_eq_none

end Exchange

/-! ## Transcripts -/

/-- What is outside a process, and the exchanges with the loader, the first one first. -/
abbrev Transcribed (σ : Type) := σ × List Exchange

/-- A loader whose exchanges are written down. -/
def Loader.transcribed (loader : Loader σ) : Loader (Transcribed σ) :=
  fun verb name env outside =>
    let (answer, rest) := loader verb name env outside.1
    (answer, (rest, outside.2 ++ [⟨verb, name, env, answer⟩]))

namespace Session

/-- A session with an empty transcript. -/
def transcribed (s : Session σ) : Session (Transcribed σ) :=
  { s with outside := (s.outside, []) }

/-- The exchanges that were written down. -/
def transcript (s : Session (Transcribed σ)) : List Exchange := s.outside.2

end Session

theorem seenAs_transcribed (loader : Loader σ) : loader.transcribed.SeenAs Prod.fst loader :=
  fun _ _ _ _ => rfl

/-- An activation goes the same way with a transcript. -/
theorem Activation.through_transcribed (a : Activation) (loader : Loader σ) (s : Session σ) :
    through Prod.fst (a.enter loader.transcribed s.transcribed) = a.enter loader s :=
  through_enter (seenAs_transcribed loader) a s.transcribed

/-! ## Dialogues -/

/-- How exchanges go from an environment on. Each call sees what the changes so far have made
of it, and the first one that does not pass is the last. `ok` says whether all have passed,
and the environment at the end is what the changes of those that passed have made. -/
inductive Dialogue : Environment → List Exchange → Bool → Environment → Prop where
  | done (env : Environment) : Dialogue env [] true env
  | stopped {x : Exchange} (refused : ¬ x.Passes) : Dialogue x.env [x] false x.env
  | passed {x : Exchange} {rest : List Exchange} {ok : Bool} {last : Environment}
      (passes : x.Passes) (goes : Dialogue (x.env.changeAll x.changes) rest ok last) :
      Dialogue x.env (x :: rest) ok last

theorem changeAll_append (env : Environment) (cs ds : List Change) :
    env.changeAll (cs ++ ds) = (env.changeAll cs).changeAll ds :=
  List.foldl_append

namespace Dialogue

variable {env next last : Environment} {xs ys : List Exchange} {ok : Bool}

/-- One dialogue after another. -/
theorem append (hxs : Dialogue env xs true next) (hys : Dialogue next ys ok last) :
    Dialogue env (xs ++ ys) ok last := by
  generalize htrue : true = good at hxs
  induction hxs with
  | done env => exact hys
  | stopped refused => cases htrue
  | passed passes goes ih => exact .passed passes (ih hys htrue)

/-- A dialogue ends well exactly if every call passes. -/
theorem ok_iff (h : Dialogue env xs ok last) : ok = true ↔ ∀ x ∈ xs, x.Passes := by
  induction h with
  | done env => simp
  | stopped refused => simpa using refused
  | @passed x rest ok last passes goes ih =>
    rw [ih, List.forall_mem_cons]
    exact ⟨fun hrest => ⟨passes, hrest⟩, And.right⟩

/-- A dialogue that does not end well ends at the first call that does not pass. -/
theorem exists_last (h : Dialogue env xs ok last) (hbad : ok = false) :
    ∃ earlier x, xs = earlier ++ [x] ∧ (∀ y ∈ earlier, y.Passes) ∧ ¬ x.Passes := by
  induction h with
  | done env => cases hbad
  | @stopped x refused =>
    refine ⟨[], x, rfl, ?_, refused⟩
    intro y hy
    cases hy
  | @passed x rest ok last passes goes ih =>
    obtain ⟨earlier, y, rfl, hearlier, hy⟩ := ih hbad
    refine ⟨x :: earlier, y, rfl, ?_, hy⟩
    rw [List.forall_mem_cons]
    exact ⟨passes, hearlier⟩

/-- A call sees what the changes of the calls before it have made. -/
theorem env_of_split (h : Dialogue env xs ok last) {earlier later : List Exchange}
    {x : Exchange} (hxs : xs = earlier ++ x :: later) :
    x.env = env.changeAll (earlier.flatMap Exchange.changes) := by
  induction h generalizing earlier with
  | done env => simp at hxs
  | @stopped y refused =>
    cases earlier with
    | nil =>
      obtain ⟨rfl, -⟩ := List.cons_eq_cons.1 hxs
      rfl
    | cons z zs => simp at hxs
  | @passed y rest ok last passes goes ih =>
    -- the call is the first one, or it comes later and sees what the first one has made
    cases earlier with
    | nil =>
      obtain ⟨rfl, -⟩ := List.cons_eq_cons.1 hxs
      rfl
    | cons z zs =>
      obtain ⟨rfl, hrest⟩ := List.cons_eq_cons.1 hxs
      rw [List.flatMap_cons, changeAll_append]
      exact ih hrest

/-- What is left at the end of a dialogue that ends well are the changes of all calls. -/
theorem last_env (h : Dialogue env xs ok last) (hgood : ok = true) :
    last = env.changeAll (xs.flatMap Exchange.changes) := by
  induction h with
  | done env => rfl
  | stopped refused => cases hgood
  | passed passes goes ih =>
    rw [List.flatMap_cons, changeAll_append]
    exact ih hgood

end Dialogue

/-! ## Acts of an activation -/

/-- An act has these exchanges with the loader, and they go as a dialogue. -/
structure Asks {α : Type} (s : Session (Transcribed σ))
    (act : Except CompilerError α × Session (Transcribed σ)) (xs : List Exchange) : Prop where
  transcript : act.2.transcript = s.transcript ++ xs
  dialogue : Dialogue s.env xs act.1.isOk act.2.env

/-- An act after one that succeeds has its exchanges after those of the first. -/
theorem Asks.andThen {α β : Type} {s t : Session (Transcribed σ)} {v : α}
    {next : α → Session (Transcribed σ) → Except CompilerError β × Session (Transcribed σ)}
    {xs ys : List Exchange} (hfirst : Asks s ((.ok v, t) : Except CompilerError α × _) xs)
    (hnext : Asks t (next v t) ys) : Asks s (andThen (.ok v, t) next) (xs ++ ys) where
  transcript := by
    have ht : t.transcript = s.transcript ++ xs := hfirst.transcript
    show (next v t).2.transcript = _
    rw [hnext.transcript, ht, List.append_assoc]
  dialogue := hfirst.dialogue.append hnext.dialogue

/-- A log line makes no difference. -/
theorem Asks.of_debug {α : Type} {s : Session (Transcribed σ)} {text : String}
    {act : Except CompilerError α × Session (Transcribed σ)} {xs : List Exchange}
    (h : Asks (s.debug text) act xs) : Asks s act xs :=
  ⟨h.transcript, h.dialogue⟩

/-- After an act that fails nothing is asked. -/
theorem Asks.andThen_error {α β : Type} {s t : Session (Transcribed σ)} {e : CompilerError}
    {next : α → Session (Transcribed σ) → Except CompilerError β × Session (Transcribed σ)}
    {xs : List Exchange} (hfirst : Asks s ((.error e, t) : Except CompilerError α × _) xs) :
    Asks s (Toolchain.andThen (.error e, t) next) xs where
  transcript := hfirst.transcript
  dialogue := hfirst.dialogue

namespace Activation

variable (a : Activation) (loader : Loader σ)

/-- Asking is one exchange, in the environment as it is. It changes nothing by itself. -/
theorem ask_transcribed (verb : ModuleVerb) (name module : String)
    (s : Session (Transcribed σ)) :
    ∃ x : Exchange, ∃ t, a.ask loader.transcribed verb name module s =
        (x.answer.mapError (a.moduleError module), t) ∧
      x.verb = verb ∧ x.name = name ∧ x.env = s.env ∧ t.env = s.env ∧
      t.transcript = s.transcript ++ [x] :=
  ⟨⟨verb, name, s.env, (loader verb name s.env s.outside.1).1⟩, _, rfl, rfl, rfl, rfl, rfl, rfl⟩

/-- Showing a module is one exchange, which passes if the loader answers. -/
theorem asks_display (module : String) (s : Session (Transcribed σ)) :
    ∃ x : Exchange, x.verb = .display ∧ x.name = module ∧
      Asks s (a.ask loader.transcribed .display module module s) [x] ∧
      (a.ask loader.transcribed .display module module s).1 =
        x.answer.mapError (a.moduleError module) := by
  obtain ⟨x, t, hask, hverb, hname, hsaw, henv, htranscript⟩ :=
    ask_transcribed a loader .display module module s
  rw [hask]
  refine ⟨x, hverb, hname, ⟨htranscript, ?_⟩, rfl⟩
  show Dialogue s.env [x] _ t.env
  rw [henv, ← hsaw]
  cases hanswer : x.answer with
  | error message => exact .stopped (Exchange.not_passes_of_error hanswer)
  | ok effect =>
    have hchanges := Exchange.changes_of_display hverb
    have hpasses : x.Passes := by
      refine ⟨⟨effect, hanswer⟩, ?_⟩
      rw [hchanges]
      intro c hc
      cases hc
    have hdone := Dialogue.passed hpasses (.done _)
    rw [hchanges] at hdone
    exact hdone

/-- A load or an unload is one exchange, which passes if its changes can be made; then they
are made. -/
theorem asks_perform {verb : ModuleVerb} (hverb : verb ≠ .display) (name module : String)
    (s : Session (Transcribed σ)) :
    ∃ x : Exchange, x.verb = verb ∧ x.name = name ∧
      Asks s (a.perform loader.transcribed verb name module s) [x] := by
  obtain ⟨x, t, hask, rfl, hname, hsaw, henv, htranscript⟩ :=
    ask_transcribed a loader verb name module s
  refine ⟨x, rfl, hname, ?_⟩
  rw [perform_eq, hask]
  cases hanswer : x.answer with
  | error message =>
    refine ⟨htranscript, ?_⟩
    show Dialogue s.env [x] false t.env
    rw [henv, ← hsaw]
    exact .stopped (Exchange.not_passes_of_error hanswer)
  | ok effect =>
    have hchanges := Exchange.changes_of_ok hverb hanswer
    show Asks s (a.applyEffect module effect t) [x]
    unfold applyEffect
    split
    · next fault hfault =>
      refine ⟨htranscript, ?_⟩
      show Dialogue s.env [x] false t.env
      rw [henv, ← hsaw]
      refine .stopped ?_
      intro hpasses
      have hsettable := hpasses.settable
      rw [hchanges, ← Exchange.findSome?_fault_eq_none, hfault] at hsettable
      cases hsettable
    · next hnone =>
      refine ⟨htranscript, ?_⟩
      show Dialogue s.env [x] true (t.env.changeAll effect.changes)
      rw [henv, ← hsaw, ← hchanges]
      refine .passed ⟨⟨effect, hanswer⟩, ?_⟩ (.done _)
      rw [hchanges]
      exact Exchange.findSome?_fault_eq_none.1 hnone

end Activation

end Toolchain
