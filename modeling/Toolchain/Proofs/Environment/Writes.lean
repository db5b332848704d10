import Toolchain.Proofs.Environment.PathVariable
import Toolchain.Proofs.Environment.Transcript

/-!
# Every write of an activation can be made

A process can give a variable a value, or remove it, only if the name is settable, and the
value if there is one. What happens otherwise is up to the process; it may well end. Here an
activation is carried out with the way of writing as a parameter (`Writing`): wherever the
activation changes a variable, the parameter is asked to do it. With any parameter that makes
the changes which can be made, the course is the same, so no other change is ever asked for.

Variables are written in four places: the variables of the mutation, the path entries that
are joined to what is there, the changes that a module reports, and restoring what was saved.

  * `SettableChange` — a change that a process can make.
  * `Writing.strict` — a process that ends at any other change.
  * `Writing.apply`, `restore`, `applyEffect`, `enter`, `leave` — the four places, and a scope.

## Main statements

  * `settableValue_withEntry` — an entry joined to what is there can be set.
  * `apply_eq`, `restore_eq`, `applyEffect_eq` — the writes of each place can be made.
  * `Keeps.enter` — the variables change by writes alone.
  * `unsettable_never_written` — so can all writes of a scope.
-/

namespace Toolchain

variable {σ : Type}

/-! ## Changes that can be made -/

/-- A process can make a change: the name is settable, and the value if there is one. -/
def SettableChange (c : Change) : Prop :=
  SettableName c.1 ∧ ∀ v, c.2 = some v → SettableValue v

instance (c : Change) : Decidable (SettableChange c) :=
  decidable_of_iff (variableFault? c.1 c.2 = none) variableFault?_eq_none

namespace Dict

variable {env : Environment}

theorem Settable.insert (h : env.Settable) {k v : String} (hk : SettableName k)
    (hv : SettableValue v) : (env.insert k v).Settable := by
  intro e he
  rcases mem_putEntry he with rfl | he
  · exact ⟨hk, hv⟩
  · exact h e he

theorem Settable.erase (h : env.Settable) (k : String) : (env.erase k).Settable := by
  intro e he
  exact h e (List.mem_of_mem_filter he)

/-- A change that can be made leaves an environment that can be made. -/
theorem Settable.change (h : env.Settable) {c : Change} (hc : SettableChange c) :
    (env.change c).Settable := by
  obtain ⟨hname, hvalue⟩ := hc
  unfold Dict.change
  split
  · next v hv => exact h.insert hname (hvalue v hv)
  · exact h.erase c.1

theorem Settable.changeAll (h : env.Settable) {cs : List Change}
    (hcs : ∀ c ∈ cs, SettableChange c) : (env.changeAll cs).Settable := by
  induction cs generalizing env with
  | nil => exact h
  | cons c cs ih =>
    have hc : SettableChange c := hcs c List.mem_cons_self
    exact ih (h.change hc) fun d hd => hcs d (List.mem_cons_of_mem c hd)

theorem Settable.name (h : env.Settable) {k : String} (hk : k ∈ env.keys) : SettableName k := by
  obtain ⟨e, he, rfl⟩ := List.mem_map.1 hk
  exact (h e he).1

theorem Settable.value (h : env.Settable) {k v : String} (hv : env.get? k = some v) :
    SettableValue v := (h (k, v) (get?_eq_some_iff.1 hv)).2

end Dict

/-- The characters of the entries of a value are those of the value. -/
theorem settableValue_of_mem_pathEntries {value e : String} (h : SettableValue value)
    (he : e ∈ pathEntries value) : SettableValue e := by
  obtain ⟨w, hw, rfl⟩ := List.mem_map.1 he
  intro hnul
  rw [String.toList_ofList] at hnul
  exact h (Text.mem_of_mem_pieces hw hnul)

theorem settableValue_joined {es : List String} (h : ∀ e ∈ es, SettableValue e) :
    SettableValue (joined ":" es) := by
  intro hnul
  rw [toList_joined] at hnul
  rcases Text.mem_of_mem_joinWith hnul with hsep | ⟨w, hw, hnul⟩
  · exact absurd hsep (by decide)
  · obtain ⟨e, he, rfl⟩ := List.mem_map.1 hw
    exact h e he hnul

/-- An entry that can be set, joined to a value that can be set, can be set. -/
theorem settableValue_withEntry {place : PathEnd} {entry : String} {old : Option String}
    (hentry : SettableValue entry) (hold : ∀ v, old = some v → SettableValue v) :
    SettableValue (withEntry place entry old) := by
  have hentries : ∀ e ∈ (old.map pathEntries).getD [], SettableValue e := by
    intro e he
    cases old with
    | none => cases he
    | some v => exact settableValue_of_mem_pathEntries (hold v rfl) he
  have hall : ∀ e ∈ place.add entry ((old.map pathEntries).getD []), SettableValue e := by
    intro e he
    rcases PathEnd.mem_add.1 he with rfl | he
    · exact hentry
    · exact hentries e he
  unfold withEntry joinEntries?
  split
  · exact settableValue_joined hall
  · exact hentry

/-! ## Ways of writing -/

/-- How a process changes a variable: the environment afterwards, or none if the process ends. -/
abbrev Writing := Environment → Change → Option Environment

namespace Writing

/-- Every change that can be made is made. Nothing is said about the others. -/
def Lawful (w : Writing) : Prop := ∀ env c, SettableChange c → w env c = some (env.change c)

/-- A process that ends at a change that cannot be made. -/
def strict : Writing := fun env c => if SettableChange c then some (env.change c) else none

theorem lawful_strict : strict.Lawful := fun _ _ hc => if_pos hc

variable (w : Writing)

/-! ### Variables -/

/-- Makes changes, the first one first. -/
def writeAll (cs : List Change) (env : Environment) : Option Environment := cs.foldlM w env

/-- Adds an entry to a path variable. -/
def addEntry (place : PathEnd) (env : Environment) (e : String × String) : Option Environment :=
  w env (e.1, some (withEntry place e.2 (env.get? e.1)))

/-- Makes the changes of a mutation. -/
def apply (m : Mutation) (env : Environment) : Option Environment :=
  (w.writeAll (m.set.toList.map fun e => (e.1, some e.2)) env).bind fun env =>
    (w.writeAll (m.unset.map (·, none)) env).bind fun env =>
      (m.prependPath.toList.foldlM (w.addEntry .front) env).bind fun env =>
        m.appendPath.toList.foldlM (w.addEntry .back) env

/-- Removes the variables that were not there. -/
def pruneTo (saved env : Environment) : List String → Option Environment
  | [] => some env
  | k :: ks =>
    (if saved.contains k then some env else w env (k, none)).bind (pruneTo saved · ks)

/-- Gives variables their old values, where they differ. -/
def putBack (env : Environment) : List (String × String) → Option Environment
  | [] => some env
  | (k, v) :: rest =>
    (if env.get? k = some v then some env else w env (k, some v)).bind (putBack · rest)

/-- Undoes everything since the environment was saved. -/
def restore (saved env : Environment) : Option Environment :=
  (w.pruneTo saved env env.keys).bind (w.putBack · saved.toList)

/-! ### Acts of a session -/

/-- A session with other variables. -/
def onEnv (s : Session σ) (env : Option Environment) : Option (Session σ) :=
  env.map fun env => { s with env }

/-- Closes a scope. -/
def leave (s : Session σ) (g : Guard) : Option (Session σ) :=
  (onEnv s (w.restore g.saved s.env)).map (·.surrender g.ownsLock)

/-- One act after another, unless the first one fails or the process has ended. -/
def andThen {α β : Type} (x : Option (Except CompilerError α × Session σ))
    (next : α → Session σ → Option (Except CompilerError β × Session σ)) :
    Option (Except CompilerError β × Session σ) :=
  x.bind fun
    | (.error e, s) => some (.error e, s)
    | (.ok v, s) => next v s

/-- Makes the changes of a module if all of them can be made. -/
def applyEffect (a : Activation) (module : String) (effect : ModuleEffect) (s : Session σ) :
    Option (Except CompilerError Unit × Session σ) :=
  match effect.changes.findSome? fun c => variableFault? c.1 c.2 with
  | some fault => some (.error (a.moduleError module fault.message), s)
  | none => (onEnv s (w.writeAll effect.changes s.env)).map ((.ok (), ·))

/-- Asks the loader and makes the changes that it answers. -/
def perform (a : Activation) (loader : Loader σ) (verb : ModuleVerb) (name module : String)
    (s : Session σ) : Option (Except CompilerError Unit × Session σ) :=
  andThen (some (a.ask loader verb name module s)) (w.applyEffect a module)

/-- Unloads the modules that `module` conflicts with. -/
def unloadAll (a : Activation) (loader : Loader σ) (module : String) :
    List String → Session σ → Option (Except CompilerError Unit × Session σ)
  | [], s => some (.ok (), s)
  | conflict :: rest, s =>
    andThen (w.perform a loader .unload conflict module
        (s.debug (a.compiler ++ ": module " ++ module ++ " conflicts with " ++ conflict)))
      fun _ => unloadAll a loader module rest

/-- Shows a module, unloads what it conflicts with, and loads it. -/
def loadOne (a : Activation) (loader : Loader σ) (module : String) (s : Session σ) :
    Option (Except CompilerError Unit × Session σ) :=
  andThen (some (a.ask loader .display module module s)) fun shown t =>
    andThen (w.unloadAll a loader module (moduleConflicts shown.output) t) fun _ =>
      w.perform a loader .load module module

/-- Loads modules one after the other. -/
def loadAll (a : Activation) (loader : Loader σ) :
    List String → Session σ → Option (Except CompilerError Unit × Session σ)
  | [], s => some (.ok (), s)
  | module :: rest, s =>
    andThen (w.loadOne a loader module s) fun _ => loadAll a loader rest

/-- Enters the scope and answers its guard. -/
def enter (a : Activation) (loader : Loader σ) (s : Session σ) :
    Option (Except CompilerError Guard × Session σ) :=
  match a.mutation.fault? with
  | some fault => some (.error (.invalidConfig (a.compiler ++ ": " ++ fault.message)), s)
  | none =>
    let (guard, s) := s.enter
    (onEnv (a.mutate s) (w.apply a.mutation s.env)).bind fun s =>
      (w.loadAll a loader a.modules s).bind fun
        | (.error e, s) => (w.leave s guard).map ((.error e, ·))
        | (.ok _, s) => some (.ok guard, s)

/-! ## The writes of each place -/

section Lawful

variable {w} (hw : w.Lawful)
include hw

theorem writeAll_eq {cs : List Change} (hcs : ∀ c ∈ cs, SettableChange c) (env : Environment) :
    w.writeAll cs env = some (env.changeAll cs) := by
  induction cs generalizing env with
  | nil => rfl
  | cons c cs ih =>
    have hc : w env c = some (env.change c) := hw env c (hcs c List.mem_cons_self)
    show (cs.foldlM w =<< w env c) = _
    rw [hc]
    exact ih (fun d hd => hcs d (List.mem_cons_of_mem c hd)) (env.change c)

theorem addEntries_eq (place : PathEnd) {es : List (String × String)}
    (hes : ∀ e ∈ es, SettableName e.1 ∧ SettableValue e.2) {env : Environment}
    (henv : env.Settable) :
    es.foldlM (w.addEntry place) env = some (es.foldl (Mutation.addEntry place) env) ∧
      (es.foldl (Mutation.addEntry place) env).Settable := by
  induction es generalizing env with
  | nil => exact ⟨rfl, henv⟩
  | cons e es ih =>
    obtain ⟨hname, hentry⟩ := hes e List.mem_cons_self
    -- what is joined to has the characters of a value of the environment
    have hvalue : SettableValue (withEntry place e.2 (env.get? e.1)) :=
      settableValue_withEntry hentry fun v hv => henv.value hv
    have hwrite : w.addEntry place env e = some (Mutation.addEntry place env e) :=
      hw env _ ⟨hname, fun v hv => Option.some.inj hv ▸ hvalue⟩
    have henv' : (Mutation.addEntry place env e).Settable := henv.insert hname hvalue
    rw [List.foldlM_cons, hwrite]
    exact ih (fun d hd => hes d (List.mem_cons_of_mem e hd)) henv'

theorem apply_eq {m : Mutation} (hm : m.Settable) {env : Environment} (henv : env.Settable) :
    w.apply m env = some (m.apply env) ∧ (m.apply env).Settable := by
  have hset : ∀ c ∈ m.set.toList.map (fun e => ((e.1, some e.2) : Change)),
      SettableChange c := by
    intro c hc
    obtain ⟨e, he, rfl⟩ := List.mem_map.1 hc
    obtain ⟨hname, hvalue⟩ := hm.set e he
    exact ⟨hname, fun v hv => Option.some.inj hv ▸ hvalue⟩
  have hunset : ∀ c ∈ m.unset.map (fun name => ((name, none) : Change)), SettableChange c := by
    intro c hc
    obtain ⟨name, hname, rfl⟩ := List.mem_map.1 hc
    exact ⟨hm.unset name hname, fun v hv => nomatch hv⟩
  have hsetAll : env.changeAll (m.set.toList.map fun e => (e.1, some e.2)) =
      Mutation.setAll env m.set.toList := List.foldl_map
  have heraseAll : (Mutation.setAll env m.set.toList).changeAll (m.unset.map (·, none)) =
      Mutation.eraseAll (Mutation.setAll env m.set.toList) m.unset := List.foldl_map
  have hbase : (Mutation.eraseAll (Mutation.setAll env m.set.toList) m.unset).Settable := by
    rw [← heraseAll, ← hsetAll]
    exact (henv.changeAll hset).changeAll hunset
  obtain ⟨hfront, hfrontEnv⟩ := addEntries_eq hw .front hm.prependPath hbase
  obtain ⟨hback, hbackEnv⟩ := addEntries_eq hw .back hm.appendPath hfrontEnv
  refine ⟨?_, hbackEnv⟩
  unfold apply
  rw [writeAll_eq hw hset, Option.bind_some, hsetAll, writeAll_eq hw hunset, Option.bind_some,
    heraseAll, hfront, Option.bind_some, hback]
  rfl

theorem pruneTo_eq {ks : List String} (hks : ∀ k ∈ ks, SettableName k)
    (saved env : Environment) :
    w.pruneTo saved env ks = some (Toolchain.pruneTo saved env ks) := by
  induction ks generalizing env with
  | nil => rfl
  | cons k ks ih =>
    have hks' : ∀ k ∈ ks, SettableName k := fun d hd => hks d (List.mem_cons_of_mem k hd)
    have hwrite : w env (k, none) = some (env.erase k) :=
      hw env (k, none) ⟨hks k List.mem_cons_self, fun v hv => nomatch hv⟩
    unfold pruneTo Toolchain.pruneTo
    by_cases hsaved : saved.contains k = true
    · rw [if_pos hsaved, if_pos hsaved]
      exact ih hks' env
    · rw [if_neg hsaved, if_neg hsaved, hwrite]
      exact ih hks' (env.erase k)

theorem putBack_eq {es : List (String × String)}
    (hes : ∀ e ∈ es, SettableName e.1 ∧ SettableValue e.2) (env : Environment) :
    w.putBack env es = some (Toolchain.putBack env es) := by
  induction es generalizing env with
  | nil => rfl
  | cons e es ih =>
    obtain ⟨k, v⟩ := e
    obtain ⟨hname, hvalue⟩ := hes (k, v) List.mem_cons_self
    have hes' : ∀ e ∈ es, SettableName e.1 ∧ SettableValue e.2 :=
      fun d hd => hes d (List.mem_cons_of_mem (k, v) hd)
    have hwrite : w env (k, some v) = some (env.insert k v) :=
      hw env (k, some v) ⟨hname, fun u hu => Option.some.inj hu ▸ hvalue⟩
    unfold putBack Toolchain.putBack
    by_cases hsame : env.get? k = some v
    · rw [if_pos hsame, if_pos hsame]
      exact ih hes' env
    · rw [if_neg hsame, if_neg hsame, hwrite]
      exact ih hes' (env.insert k v)

/-- Restoring removes names of the environment and writes what was saved. -/
theorem restore_eq {saved env : Environment} (hsaved : saved.Settable) (henv : env.Settable) :
    w.restore saved env = some (Toolchain.restore saved env) := by
  unfold restore Toolchain.restore
  rw [pruneTo_eq hw (fun k hk => henv.name hk)]
  exact putBack_eq hw hsaved _

theorem leave_eq {s : Session σ} {g : Guard} (hg : g.saved.Settable) (hs : s.env.Settable) :
    w.leave s g = some (s.leave g) := by
  unfold leave
  rw [restore_eq hw hg hs]
  rfl

/-! ## Modules -/

/-- The changes of a module are written only after all of them are checked. -/
theorem applyEffect_eq (a : Activation) (module : String) (effect : ModuleEffect)
    (s : Session σ) :
    w.applyEffect a module effect s = some (a.applyEffect module effect s) := by
  unfold applyEffect Activation.applyEffect
  cases hfault : effect.changes.findSome? fun c => variableFault? c.1 c.2 with
  | some fault => rfl
  | none =>
    have hwrites := writeAll_eq hw (Exchange.findSome?_fault_eq_none.1 hfault) s.env
    dsimp only
    rw [hwrites]
    rfl

omit hw in
/-- Acts whose writes can be made have this one after the other. -/
theorem andThen_eq {α β : Type} {x : Option (Except CompilerError α × Session σ)}
    {x' : Except CompilerError α × Session σ} (hx : x = some x')
    {next : α → Session σ → Option (Except CompilerError β × Session σ)}
    {next' : α → Session σ → Except CompilerError β × Session σ}
    (hnext : ∀ v t, next v t = some (next' v t)) :
    andThen x next = some (Toolchain.andThen x' next') := by
  subst hx
  rcases x' with ⟨e | v, t⟩
  · rfl
  · exact hnext v t

theorem perform_eq (a : Activation) (loader : Loader σ) (verb : ModuleVerb)
    (name module : String) (s : Session σ) :
    w.perform a loader verb name module s = some (a.perform loader verb name module s) := by
  rw [Activation.perform_eq]
  exact andThen_eq rfl (applyEffect_eq hw a module)

theorem unloadAll_eq (a : Activation) (loader : Loader σ) (module : String)
    (conflicts : List String) (s : Session σ) :
    w.unloadAll a loader module conflicts s = some (a.unloadAll loader module conflicts s) := by
  induction conflicts generalizing s with
  | nil => rfl
  | cons conflict rest ih =>
    rw [Activation.unloadAll_cons]
    exact andThen_eq (perform_eq hw a loader .unload conflict module _) fun _ => ih

theorem loadOne_eq (a : Activation) (loader : Loader σ) (module : String) (s : Session σ) :
    w.loadOne a loader module s = some (a.loadOne loader module s) := by
  rw [Activation.loadOne_eq]
  refine andThen_eq rfl fun shown t => ?_
  exact andThen_eq (unloadAll_eq hw a loader module _ t) fun _ =>
    perform_eq hw a loader .load module module

theorem loadAll_eq (a : Activation) (loader : Loader σ) (modules : List String)
    (s : Session σ) :
    w.loadAll a loader modules s = some (a.loadAll loader modules s) := by
  induction modules generalizing s with
  | nil => rfl
  | cons module rest ih =>
    rw [Activation.loadAll_cons]
    exact andThen_eq (loadOne_eq hw a loader module s) fun _ => ih

end Lawful

/-! ## A scope -/

/-- Loading modules leaves an environment that can be made, if it finds one. -/
theorem keeps_settable (a : Activation) (loader : Loader σ) :
    a.Keeps loader fun s t => s.env.Settable → t.env.Settable where
  refl _ := id
  trans hst htu := htu ∘ hst
  debug _ _ := id
  ask _ _ _ _ := id
  change hcs _ hs := hs.changeAll (Exchange.findSome?_fault_eq_none.1 hcs)

/-- An activation makes only changes that can be made, if it fails or not, and leaves an
environment that can be made. -/
theorem enter_eq {w : Writing} (hw : w.Lawful) (a : Activation) (loader : Loader σ)
    {s : Session σ} (hs : s.env.Settable) :
    w.enter a loader s = some (a.enter loader s) ∧ (a.enter loader s).2.env.Settable := by
  cases hfault : a.mutation.fault? with
  | some fault =>
    rw [Activation.enter_error_of_fault hfault]
    refine ⟨?_, hs⟩
    unfold enter
    rw [hfault]
  | none =>
    have hm := Mutation.fault?_eq_none_iff.1 hfault
    obtain ⟨hmutate, hmutated⟩ := apply_eq hw hm (show s.enter.2.env.Settable from hs)
    have hloaded : (a.loadAll loader a.modules (a.mutate s.enter.2)).2.env.Settable :=
      (keeps_settable a loader).loadAll a.modules _ hmutated
    have hload := loadAll_eq hw a loader a.modules (a.mutate s.enter.2)
    have henter : w.enter a loader s =
        (w.loadAll a loader a.modules (a.mutate s.enter.2)).bind fun
          | (.error e, t) => (w.leave t s.enter.1).map ((.error e, ·))
          | (.ok _, t) => some (.ok s.enter.1, t) := by
      unfold enter
      rw [hfault]
      show Option.bind (onEnv _ (w.apply a.mutation s.enter.2.env)) _ = _
      rw [hmutate]
      rfl
    rw [henter, hload, Option.bind_some, Activation.enter_of_no_fault hfault]
    rcases hresult : a.loadAll loader a.modules (a.mutate s.enter.2) with ⟨e | u, t⟩
    · rw [hresult] at hloaded
      have hleave : w.leave t s.enter.1 = some (t.leave s.enter.1) := leave_eq hw hs hloaded
      have henv : (t.leave s.enter.1).env.Settable := by
        rw [Session.env_leave]
        exact hs
      refine ⟨?_, henv⟩
      dsimp only
      rw [hleave]
      rfl
    · rw [hresult] at hloaded
      exact ⟨rfl, hloaded⟩

/-! ## No other way of writing -/

/-- Every write keeps a relation between what was there before and what is there afterwards. -/
structure Keeps (w : Writing) (R : Environment → Environment → Prop) : Prop where
  refl (env : Environment) : R env env
  trans {env env' env'' : Environment} : R env env' → R env' env'' → R env env''
  write {env env' : Environment} {c : Change} : w env c = some env' → R env env'

/-- An act keeps a relation, unless the process ends. -/
def Reaches (R : Environment → Environment → Prop) {α : Type} (s : Session σ)
    (x : Option (α × Session σ)) : Prop := ∀ y, x = some y → R s.env y.2.env

namespace Keeps

variable {w : Writing} {R : Environment → Environment → Prop} (h : w.Keeps R)
include h

theorem foldlM {α : Type} {f : Environment → α → Option Environment}
    (hf : ∀ env x env', f env x = some env' → R env env') {xs : List α} {env env' : Environment}
    (hxs : xs.foldlM f env = some env') : R env env' := by
  induction xs generalizing env with
  | nil =>
    obtain rfl : env = env' := Option.some.inj hxs
    exact h.refl env
  | cons x xs ih =>
    rw [List.foldlM_cons] at hxs
    obtain ⟨next, hx, hrest⟩ := Option.bind_eq_some_iff.1 hxs
    exact h.trans (hf env x next hx) (ih hrest)

theorem apply {m : Mutation} {env env' : Environment} (hm : w.apply m env = some env') :
    R env env' := by
  obtain ⟨first, hset, hm⟩ := Option.bind_eq_some_iff.1 hm
  obtain ⟨second, hunset, hm⟩ := Option.bind_eq_some_iff.1 hm
  obtain ⟨third, hfront, hback⟩ := Option.bind_eq_some_iff.1 hm
  have hwrite : ∀ env c env', w env c = some env' → R env env' := fun _ _ _ => h.write
  have hadd : ∀ place env e env', w.addEntry place env e = some env' → R env env' :=
    fun _ _ _ _ => h.write
  exact h.trans (h.foldlM hwrite hset) (h.trans (h.foldlM hwrite hunset)
    (h.trans (h.foldlM (hadd .front) hfront) (h.foldlM (hadd .back) hback)))

theorem pruneTo {saved env env' : Environment} {ks : List String}
    (hks : w.pruneTo saved env ks = some env') : R env env' := by
  induction ks generalizing env with
  | nil =>
    obtain rfl : env = env' := Option.some.inj hks
    exact h.refl env
  | cons k ks ih =>
    obtain ⟨next, hk, hrest⟩ := Option.bind_eq_some_iff.1 hks
    refine h.trans ?_ (ih hrest)
    split at hk
    · obtain rfl : env = next := Option.some.inj hk
      exact h.refl env
    · exact h.write hk

theorem putBack {env env' : Environment} {es : List (String × String)}
    (hes : w.putBack env es = some env') : R env env' := by
  induction es generalizing env with
  | nil =>
    obtain rfl : env = env' := Option.some.inj hes
    exact h.refl env
  | cons e es ih =>
    obtain ⟨next, he, hrest⟩ := Option.bind_eq_some_iff.1 hes
    refine h.trans ?_ (ih hrest)
    split at he
    · obtain rfl : env = next := Option.some.inj he
      exact h.refl env
    · exact h.write he

theorem leave {s t : Session σ} {g : Guard} (ht : w.leave s g = some t) : R s.env t.env := by
  obtain ⟨u, hu, rfl⟩ := Option.map_eq_some_iff.1 ht
  obtain ⟨env, henv, rfl⟩ := Option.map_eq_some_iff.1 hu
  obtain ⟨pruned, hprune, hput⟩ := Option.bind_eq_some_iff.1 henv
  exact h.trans (h.pruneTo hprune) (h.putBack hput)

theorem applyEffect (a : Activation) (module : String) (effect : ModuleEffect)
    (s : Session σ) : Reaches R s (w.applyEffect a module effect s) := by
  intro y hy
  unfold Writing.applyEffect at hy
  split at hy
  · obtain rfl := Option.some.inj hy
    exact h.refl s.env
  · obtain ⟨t, ht, rfl⟩ := Option.map_eq_some_iff.1 hy
    obtain ⟨env, henv, rfl⟩ := Option.map_eq_some_iff.1 ht
    exact h.foldlM (fun _ _ _ => h.write) henv

theorem andThen {α β : Type} {s : Session σ}
    {x : Option (Except CompilerError α × Session σ)}
    {next : α → Session σ → Option (Except CompilerError β × Session σ)}
    (hx : Reaches R s x) (hnext : ∀ v t, Reaches R t (next v t)) :
    Reaches R s (Writing.andThen x next) := by
  intro y hy
  obtain ⟨⟨answer, t⟩, ht, hy⟩ := Option.bind_eq_some_iff.1 hy
  have hst : R s.env t.env := hx _ ht
  cases answer with
  | error e =>
    obtain rfl := Option.some.inj hy
    exact hst
  | ok v => exact h.trans hst (hnext v t y hy)

/-- Asking a loader changes no variable. -/
theorem ask (a : Activation) (loader : Loader σ) (verb : ModuleVerb) (name module : String)
    (s : Session σ) : Reaches R s (some (a.ask loader verb name module s)) := by
  intro y hy
  obtain rfl := Option.some.inj hy
  exact h.refl s.env

theorem perform (a : Activation) (loader : Loader σ) (verb : ModuleVerb)
    (name module : String) (s : Session σ) :
    Reaches R s (w.perform a loader verb name module s) :=
  h.andThen (h.ask a loader verb name module s) (h.applyEffect a module)

theorem unloadAll (a : Activation) (loader : Loader σ) (module : String)
    (conflicts : List String) (s : Session σ) :
    Reaches R s (w.unloadAll a loader module conflicts s) := by
  induction conflicts generalizing s with
  | nil =>
    intro y hy
    obtain rfl := Option.some.inj hy
    exact h.refl s.env
  | cons conflict rest ih =>
    exact h.andThen (h.perform a loader .unload conflict module (s.debug _)) fun _ => ih

theorem loadOne (a : Activation) (loader : Loader σ) (module : String) (s : Session σ) :
    Reaches R s (w.loadOne a loader module s) :=
  h.andThen (h.ask a loader .display module module s) fun shown t =>
    h.andThen (h.unloadAll a loader module (moduleConflicts shown.output) t) fun _ =>
      h.perform a loader .load module module

theorem loadAll (a : Activation) (loader : Loader σ) (modules : List String)
    (s : Session σ) : Reaches R s (w.loadAll a loader modules s) := by
  induction modules generalizing s with
  | nil =>
    intro y hy
    obtain rfl := Option.some.inj hy
    exact h.refl s.env
  | cons module rest ih => exact h.andThen (h.loadOne a loader module s) fun _ => ih

/-- The variables change by writes alone: what every write keeps, an activation keeps. -/
theorem enter (a : Activation) (loader : Loader σ) (s : Session σ) :
    Reaches R s (w.enter a loader s) := by
  intro y hy
  unfold Writing.enter at hy
  split at hy
  · obtain rfl := Option.some.inj hy
    exact h.refl s.env
  · obtain ⟨t, ht, hy⟩ := Option.bind_eq_some_iff.1 hy
    obtain ⟨env, henv, rfl⟩ := Option.map_eq_some_iff.1 ht
    obtain ⟨⟨answer, u⟩, hu, hy⟩ := Option.bind_eq_some_iff.1 hy
    have hsu : R s.env u.env :=
      h.trans (h.apply henv) (h.loadAll a loader a.modules _ _ hu)
    cases answer with
    | error e =>
      obtain ⟨v, hv, rfl⟩ := Option.map_eq_some_iff.1 hy
      exact h.trans hsu (h.leave hv)
    | ok _ =>
      obtain rfl := Option.some.inj hy
      exact hsu

end Keeps

end Writing

/-! ## Every write of a scope -/

namespace Activation

/-- Whatever way of writing makes the changes that can be made, and whatever it does with
others, an activation in an environment that can be made takes the same course with it, and so
does closing its scope in any such environment. So none of the writes ends a process that ends
at a change that cannot be made: those of the mutation, of the path entries that are joined to
what is there, of the changes of modules, and of what is restored. There are no other changes
to the variables: with any way of writing at all, what every write keeps is kept. -/
theorem unsettable_never_written (w : Writing) (hw : w.Lawful) (a : Activation)
    (loader : Loader σ) (s : Session σ) (hs : s.env.Settable) :
    w.enter a loader s = some (a.enter loader s) ∧
      (∀ g t, a.enter loader s = (.ok g, t) → t.env.Settable ∧
        ∀ u : Session σ, u.env.Settable → w.leave u g = some (u.leave g)) ∧
      ∀ (v : Writing) (R : Environment → Environment → Prop), v.Keeps R →
        (∀ answer t, v.enter a loader s = some (answer, t) → R s.env t.env) ∧
          ∀ (g : Guard) (u t : Session σ), v.leave u g = some t → R u.env t.env := by
  obtain ⟨henter, hsettable⟩ := Writing.enter_eq hw a loader hs
  refine ⟨henter, ?_, ?_⟩
  · intro g t hok
    obtain ⟨rfl, -, -⟩ := enter_ok hok
    rw [hok] at hsettable
    refine ⟨hsettable, ?_⟩
    intro u hu
    exact Writing.leave_eq hw hs hu
  · intro v R hR
    exact ⟨fun answer t ht => hR.enter a loader s (answer, t) ht, fun g u t ht => hR.leave ht⟩

/-- A module reports a name that cannot be set after one that can. A process that would end at
it does not come to it, nor does it end when an entry is joined and all is restored. -/
theorem unsettable_never_written_gcc :
    let loader : Loader Unit := fun verb _ _ u =>
      match verb with
      | .load => (.ok { changes := [("GCC", some "13"), ("X=Y", some "1")] }, u)
      | _ => (.ok {}, u)
    let a : Activation :=
      ⟨"gcc@13", { set := .ofList [("CC", "gcc")], prependPath := .ofList [("PATH", "/opt")] },
        ["gcc/13"]⟩
    let s : Session Unit := .start (.ofList [("PATH", "/bin")]) ()
    Writing.strict s.env ("X=Y", some "1") = none ∧ Writing.strict.Lawful ∧ s.env.Settable ∧
      Writing.strict.enter a loader s = some (a.enter loader s) ∧
      (a.enter loader s).1.isOk = false ∧ (a.enter loader s).2.env = s.env := by
  intro loader a s
  have hs : s.env.Settable := by decide +kernel
  obtain ⟨henter, -, -⟩ :=
    unsettable_never_written Writing.strict Writing.lawful_strict a loader s hs
  exact ⟨rfl, Writing.lawful_strict, hs, henter, by decide +kernel, by decide +kernel⟩

end Activation

end Toolchain
