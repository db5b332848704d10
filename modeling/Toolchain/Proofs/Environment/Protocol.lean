import Toolchain.Proofs.Environment.Transcript

/-!
# The order of module calls

An activation loads its modules one after the other. Each is shown first, then the modules
that the listing names as conflicting are unloaded, then it is loaded. Which calls these are
depends on the listings alone; nothing is asked after the first call that does not pass.

  * `callsFor`, `callsForAll` — the calls for a module, and for modules, with given listings.
  * `listingsIn` — the listings in a transcript.
  * `InTurn` — the calls of a transcript are those for the modules, in this order.

## Main statements

  * `asks_unloadAll`, `asks_loadOne`, `asks_loadAll` — the calls of each part of loading.
  * `modules_called_in_turn` — the calls of an activation, and what each of them sees.
-/

namespace Toolchain

variable {σ : Type}

/-! ## The calls in order -/

/-- The calls for a module with this listing: it is shown, what it conflicts with is unloaded,
and it is loaded. -/
def callsFor (module listing : String) : List (ModuleVerb × String) :=
  (.display, module) :: ((moduleConflicts listing).map (ModuleVerb.unload, ·) ++ [(.load, module)])

/-- The calls for modules with these listings, one module after the other. -/
def callsForAll (modules listings : List String) : List (ModuleVerb × String) :=
  (List.zipWith callsFor modules listings).flatten

@[simp] theorem callsForAll_nil (listings : List String) : callsForAll [] listings = [] := rfl

@[simp] theorem callsForAll_cons (module listing : String) (modules listings : List String) :
    callsForAll (module :: modules) (listing :: listings) =
      callsFor module listing ++ callsForAll modules listings := rfl

/-- The listing that a call has answered, if it was asked for one. -/
def Exchange.listing? (x : Exchange) : Option String :=
  match x.verb, x.answer with
  | .display, .ok shown => some shown.output
  | _, _ => none

/-- The listings in a transcript. -/
def listingsIn (xs : List Exchange) : List String := xs.filterMap Exchange.listing?

theorem listingsIn_append (xs ys : List Exchange) :
    listingsIn (xs ++ ys) = listingsIn xs ++ listingsIn ys :=
  List.filterMap_append

/-- Loads and unloads answer no listing. -/
theorem listingsIn_eq_nil {xs : List Exchange} (h : ∀ x ∈ xs, x.verb ≠ .display) :
    listingsIn xs = [] := by
  apply List.filterMap_eq_nil_iff.2
  intro x hx
  have hverb := h x hx
  unfold Exchange.listing?
  split
  · next hdisplay _ => exact absurd hdisplay hverb
  · rfl

theorem listingsIn_of_error {x : Exchange} {message : String} (h : x.answer = .error message) :
    listingsIn [x] = [] := by
  have hlisting : x.listing? = none := by
    unfold Exchange.listing?
    rw [h]
    cases x.verb <;> rfl
  simp [listingsIn, hlisting]

theorem listingsIn_of_shown {x : Exchange} (hverb : x.verb = .display) {shown : ModuleEffect}
    (h : x.answer = .ok shown) : listingsIn [x] = [shown.output] := by
  have hlisting : x.listing? = some shown.output := by
    unfold Exchange.listing?
    rw [hverb, h]
  simp [listingsIn, hlisting]

/-- The calls of a transcript are those for the modules, as far as they go. The listings that
are still missing make no difference to them; `ok` says whether nothing is missing. -/
structure InTurn (modules : List String) (xs : List Exchange) (ok : Bool) : Prop where
  few : (listingsIn xs).length ≤ modules.length
  along : ∀ listings, listingsIn xs <+: listings → listings.length = modules.length →
    xs.map Exchange.call <+: callsForAll modules listings
  complete : ok = true → (listingsIn xs).length = modules.length ∧
    xs.map Exchange.call = callsForAll modules (listingsIn xs)

namespace InTurn

variable {module : String} {rest : List String} {xs ys : List Exchange} {ok : Bool}

/-- A module that could not be shown. -/
theorem unlisted {x : Exchange} (hcall : x.call = (.display, module))
    (hlistings : listingsIn [x] = []) : InTurn [module] [x] false := by
  refine ⟨?_, ?_, ?_⟩
  · rw [hlistings]
    exact Nat.zero_le 1
  · intro listings _ hlen
    obtain ⟨listing, rfl⟩ := List.length_eq_one_iff.1 hlen
    rw [List.map_singleton, hcall, callsForAll_cons]
    exact List.cons_prefix_cons.2 ⟨rfl, List.nil_prefix⟩
  · intro hok
    cases hok

/-- A module with this listing. -/
theorem listed {listing : String} (hlistings : listingsIn xs = [listing])
    (hcalls : xs.map Exchange.call <+: callsFor module listing)
    (hall : ok = true → xs.map Exchange.call = callsFor module listing) :
    InTurn [module] xs ok := by
  have hone : callsForAll [module] [listing] = callsFor module listing := by
    rw [callsForAll_cons, callsForAll_nil, List.append_nil]
  refine ⟨?_, ?_, ?_⟩
  · rw [hlistings]
    exact Nat.le_refl 1
  · intro listings hstart hlen
    obtain ⟨other, rfl⟩ := List.length_eq_one_iff.1 hlen
    rw [hlistings] at hstart
    obtain ⟨rfl, -⟩ := List.cons_prefix_cons.1 hstart
    rw [hone]
    exact hcalls
  · intro hok
    rw [hlistings, hone]
    exact ⟨rfl, hall hok⟩

/-- The calls for a module that went through, and then those for others. -/
theorem append (hxs : InTurn [module] xs true) (hys : InTurn rest ys ok) :
    InTurn (module :: rest) (xs ++ ys) ok := by
  obtain ⟨hlength, hcalls⟩ := hxs.complete rfl
  obtain ⟨listing, hlisting⟩ := List.length_eq_one_iff.1 hlength
  rw [hlisting, callsForAll_cons, callsForAll_nil, List.append_nil] at hcalls
  -- the first listing is that of the first module, the others are those of the rest
  have hlistings : listingsIn (xs ++ ys) = listing :: listingsIn ys := by
    rw [listingsIn_append, hlisting]
    rfl
  refine ⟨?_, ?_, ?_⟩
  · have := hys.few
    rw [hlistings]
    simpa using this
  · intro listings hstart hlen
    rw [hlistings] at hstart
    cases listings with
    | nil => simp at hstart
    | cons first others =>
      obtain ⟨rfl, hothers⟩ := List.cons_prefix_cons.1 hstart
      have hlen' : others.length = rest.length := by simpa using hlen
      rw [List.map_append, hcalls, callsForAll_cons, List.prefix_append_right_inj]
      exact hys.along others hothers hlen'
  · intro hok
    obtain ⟨hlen, hcalls'⟩ := hys.complete hok
    rw [hlistings, List.map_append, hcalls, hcalls', callsForAll_cons]
    refine ⟨?_, rfl⟩
    simpa using hlen

/-- The calls for a module at which it stopped. -/
theorem stopped (hxs : InTurn [module] xs false) (rest : List String) :
    InTurn (module :: rest) xs false := by
  have hfew : (listingsIn xs).length ≤ 1 := hxs.few
  refine ⟨?_, ?_, ?_⟩
  · simp only [List.length_cons]
    omega
  · intro listings hstart hlen
    cases listings with
    | nil => simp at hlen
    | cons first others =>
      -- at most one listing is there, so only the first one matters
      have hfirst : listingsIn xs <+: [first] :=
        List.prefix_of_prefix_length_le hstart
          (List.cons_prefix_cons.2 ⟨rfl, List.nil_prefix⟩) hfew
      have hcalls := hxs.along [first] hfirst rfl
      rw [callsForAll_cons, callsForAll_nil, List.append_nil] at hcalls
      exact hcalls.trans (List.prefix_append _ _)
  · intro hok
    cases hok

end InTurn

/-! ## The parts of loading -/

namespace Activation

variable (a : Activation) (loader : Loader σ)

/-- Unloading asks for one module after the other, up to the first that does not pass. -/
theorem asks_unloadAll (module : String) (conflicts : List String)
    (s : Session (Transcribed σ)) :
    ∃ xs : List Exchange, (∀ x ∈ xs, x.verb = .unload) ∧
      Asks s (a.unloadAll loader.transcribed module conflicts s) xs ∧
      xs.map Exchange.name <+: conflicts ∧
      ((a.unloadAll loader.transcribed module conflicts s).1.isOk = true →
        xs.map Exchange.name = conflicts) := by
  induction conflicts generalizing s with
  | nil =>
    refine ⟨[], ?_, ⟨(List.append_nil _).symm, .done _⟩, List.prefix_rfl, fun _ => rfl⟩
    intro x hx
    cases hx
  | cons conflict rest ih =>
    rw [unloadAll_cons]
    let line := a.compiler ++ ": module " ++ module ++ " conflicts with " ++ conflict
    obtain ⟨x, hverb, hname, hasks⟩ :=
      asks_perform a loader (by decide : ModuleVerb.unload ≠ _) conflict module (s.debug line)
    have hasks := hasks.of_debug
    rcases hperform : a.perform loader.transcribed .unload conflict module (s.debug _) with
      ⟨e | u, t⟩
    · rw [hperform] at hasks
      refine ⟨[x], ?_, hasks.andThen_error, ?_, ?_⟩
      · intro y hy
        rw [List.mem_singleton.1 hy, hverb]
      · rw [List.map_singleton, hname]
        exact List.cons_prefix_cons.2 ⟨rfl, List.nil_prefix⟩
      · intro hok
        cases hok
    · rw [hperform] at hasks
      obtain ⟨ys, hverbs, hasks', hstart, hall⟩ := ih t
      refine ⟨[x] ++ ys, ?_, hasks.andThen hasks', ?_, ?_⟩
      · intro y hy
        rcases List.mem_cons.1 hy with rfl | hy
        · exact hverb
        · exact hverbs y hy
      · rw [List.map_append, List.map_singleton, hname]
        exact List.cons_prefix_cons.2 ⟨rfl, hstart⟩
      · intro hok
        rw [List.map_append, List.map_singleton, hname, hall hok]
        rfl

/-- Calls that are all unloads are told by the names. -/
theorem map_call_of_unloads {xs : List Exchange} (h : ∀ x ∈ xs, x.verb = .unload) :
    xs.map Exchange.call = (xs.map Exchange.name).map (ModuleVerb.unload, ·) := by
  rw [List.map_map]
  apply List.map_congr_left
  intro x hx
  show (x.verb, x.name) = (ModuleVerb.unload, x.name)
  rw [h x hx]

/-- Once a module is shown, its conflicts are unloaded and it is loaded. -/
theorem asks_unloads_load (module : String) (conflicts : List String)
    (s : Session (Transcribed σ)) {act : Except CompilerError Unit × Session (Transcribed σ)}
    (hact : act = andThen (a.unloadAll loader.transcribed module conflicts s) fun _ t =>
      a.perform loader.transcribed .load module module t) :
    ∃ xs, (∀ x ∈ xs, x.verb ≠ .display) ∧ Asks s act xs ∧
      xs.map Exchange.call <+: conflicts.map (ModuleVerb.unload, ·) ++ [(.load, module)] ∧
      (act.1.isOk = true →
        xs.map Exchange.call = conflicts.map (ModuleVerb.unload, ·) ++ [(.load, module)]) := by
  obtain ⟨xs, hverbs, hasks, hstart, hall⟩ := asks_unloadAll a loader module conflicts s
  have hunloads : ∀ x ∈ xs, x.verb ≠ .display := by
    intro x hx
    rw [hverbs x hx]
    decide
  have hcalls := map_call_of_unloads hverbs
  rcases hunload : a.unloadAll loader.transcribed module conflicts s with ⟨e | u, t⟩
  · -- a conflicting module is not unloaded
    rw [hunload] at hact hasks
    rw [hact]
    refine ⟨xs, hunloads, hasks.andThen_error, ?_, ?_⟩
    · rw [hcalls]
      exact (hstart.map _).trans (List.prefix_append _ _)
    · intro hok
      cases hok
  · rw [hunload] at hact hasks hall
    obtain ⟨x, hload, hname, hasks'⟩ :=
      asks_perform a loader (by decide : ModuleVerb.load ≠ _) module module t
    have hboth : (xs ++ [x]).map Exchange.call =
        conflicts.map (ModuleVerb.unload, ·) ++ [(.load, module)] := by
      have hcall : x.call = (.load, module) := by rw [Exchange.call, hload, hname]
      rw [List.map_append, List.map_singleton, hcalls, hall rfl, hcall]
    rw [hact]
    refine ⟨xs ++ [x], ?_, hasks.andThen hasks', ?_, fun _ => hboth⟩
    · intro y hy
      rcases List.mem_append.1 hy with hy | hy
      · exact hunloads y hy
      · rw [List.mem_singleton.1 hy, hload]
        decide
    · exact ⟨[], by rw [List.append_nil, hboth]⟩

/-- Loading one module makes the calls for it. -/
theorem asks_loadOne (module : String) (s : Session (Transcribed σ)) :
    ∃ xs, Asks s (a.loadOne loader.transcribed module s) xs ∧
      InTurn [module] xs (a.loadOne loader.transcribed module s).1.isOk := by
  obtain ⟨x, hverb, hname, hasks, hanswer⟩ := asks_display a loader module s
  have hcall : x.call = (.display, module) := by rw [Exchange.call, hverb, hname]
  rw [loadOne_eq]
  rcases hask : a.ask loader.transcribed .display module module s with ⟨e | shown, t⟩
  · -- nothing is shown
    rw [hask] at hasks hanswer
    obtain ⟨message, hx⟩ : ∃ message, x.answer = .error message := by
      cases hx : x.answer with
      | error message => exact ⟨message, rfl⟩
      | ok effect =>
        rw [hx] at hanswer
        cases hanswer
    exact ⟨[x], hasks.andThen_error, .unlisted hcall (listingsIn_of_error hx)⟩
  · rw [hask] at hasks hanswer
    have hx : x.answer = .ok shown := by
      cases hx : x.answer with
      | error message =>
        rw [hx] at hanswer
        cases hanswer
      | ok effect =>
        rw [hx] at hanswer
        rw [Except.ok.inj hanswer]
    obtain ⟨ys, hverbs, hasks', hstart, hall⟩ :=
      asks_unloads_load a loader module (moduleConflicts shown.output) t rfl
    have hlistings : listingsIn (x :: ys) = [shown.output] := by
      have hcons := listingsIn_append [x] ys
      rw [listingsIn_of_shown hverb hx, listingsIn_eq_nil hverbs] at hcons
      exact hcons
    refine ⟨[x] ++ ys, hasks.andThen hasks', .listed hlistings ?_ ?_⟩
    · rw [List.map_append, List.map_singleton, hcall]
      exact List.cons_prefix_cons.2 ⟨rfl, hstart⟩
    · intro hok
      rw [List.map_append, List.map_singleton, hcall, hall hok]
      rfl

/-- Loading modules makes the calls for them, one module after the other. -/
theorem asks_loadAll (modules : List String) (s : Session (Transcribed σ)) :
    ∃ xs, Asks s (a.loadAll loader.transcribed modules s) xs ∧
      InTurn modules xs (a.loadAll loader.transcribed modules s).1.isOk := by
  induction modules generalizing s with
  | nil =>
    refine ⟨[], ⟨(List.append_nil _).symm, .done _⟩, Nat.le_refl 0, ?_, ?_⟩
    · intro listings _ _
      exact List.nil_prefix
    · intro _
      exact ⟨rfl, rfl⟩
  | cons module rest ih =>
    rw [loadAll_cons]
    obtain ⟨xs, hasks, hturn⟩ := asks_loadOne a loader module s
    rcases hone : a.loadOne loader.transcribed module s with ⟨e | u, t⟩
    · rw [hone] at hasks hturn
      exact ⟨xs, hasks.andThen_error, hturn.stopped rest⟩
    · rw [hone] at hasks hturn
      obtain ⟨ys, hasks', hturn'⟩ := ih t
      exact ⟨xs ++ ys, hasks.andThen hasks', hturn.append hturn'⟩

/-! ## An activation -/

/-- Opening the scope asks nothing, and closing it after a failure neither. -/
theorem enter_loaded {a : Activation} (hfault : a.mutation.fault? = none)
    {loader : Loader (Transcribed σ)} {s : Session (Transcribed σ)}
    {entered : Except CompilerError Guard × Session (Transcribed σ)}
    {loaded : Except CompilerError Unit × Session (Transcribed σ)}
    (hentered : a.enter loader s = entered)
    (hloaded : a.loadAll loader a.modules (a.mutate s.enter.2) = loaded) :
    entered.2.transcript = loaded.2.transcript ∧ entered.1.isOk = loaded.1.isOk ∧
      (entered.1.isOk = true → entered.2.env = loaded.2.env) := by
  rw [enter_of_no_fault hfault, hloaded] at hentered
  rcases loaded with ⟨e | u, t⟩
  · subst hentered
    refine ⟨rfl, rfl, ?_⟩
    intro hok
    cases hok
  · subst hentered
    exact ⟨rfl, rfl, fun _ => rfl⟩

/-- The exchanges of an activation are a dialogue from the changed variables on, module by
module. If it ends well, the scope is what it has made. -/
theorem dialogue_enter {a : Activation} (hfault : a.mutation.fault? = none) (loader : Loader σ)
    (s : Session σ) :
    let entered := a.enter loader.transcribed s.transcribed
    InTurn a.modules entered.2.transcript entered.1.isOk ∧
      ∃ last, Dialogue (a.mutation.apply s.env) entered.2.transcript entered.1.isOk last ∧
        (entered.1.isOk = true → entered.2.env = last) := by
  intro entered
  obtain ⟨xs, hasks, hturn⟩ := asks_loadAll a loader a.modules (a.mutate s.transcribed.enter.2)
  obtain ⟨htranscript, hok, henv⟩ := enter_loaded hfault (show _ = entered from rfl) rfl
  -- the transcript is empty at the start
  have hxs : entered.2.transcript = xs := htranscript.trans hasks.transcript
  refine ⟨?_, _, ?_, henv⟩
  · rw [hxs, hok]
    exact hturn
  · rw [hxs, hok]
    exact hasks.dialogue

/-- A mutation that cannot be made calls no loader. Else the loader is called for one module
after the other: to show it, to unload what its listing says that it conflicts with, in this
order, and to load it. The activation succeeds exactly if all calls pass, and then no call is
missing; if not, the first call that does not pass is the last one. Each call is made in the
environment that the mutation and the loads and unloads before it have made. -/
theorem modules_called_in_turn (a : Activation) (loader : Loader σ) (s : Session σ) :
    let entered := a.enter loader.transcribed s.transcribed
    let asked := entered.2.transcript
    through Prod.fst entered = a.enter loader s ∧
      (a.mutation.fault? ≠ none → asked = []) ∧
      (a.mutation.fault? = none →
        InTurn a.modules asked entered.1.isOk ∧
        (entered.1.isOk = true ↔ ∀ x ∈ asked, x.Passes) ∧
        (entered.1.isOk = false → ∃ earlier last, asked = earlier ++ [last] ∧
          (∀ x ∈ earlier, x.Passes) ∧ ¬ last.Passes) ∧
        ∀ earlier x later, asked = earlier ++ x :: later →
          x.env = (a.mutation.apply s.env).changeAll (earlier.flatMap Exchange.changes)) := by
  intro entered asked
  refine ⟨a.through_transcribed loader s, ?_, ?_⟩
  · intro hne
    obtain ⟨fault, hfault⟩ := Option.ne_none_iff_exists'.1 hne
    show (a.enter loader.transcribed s.transcribed).2.transcript = []
    rw [enter_error_of_fault hfault]
    rfl
  · intro hfault
    obtain ⟨hturn, last, hdialogue, -⟩ := dialogue_enter hfault loader s
    refine ⟨hturn, hdialogue.ok_iff, hdialogue.exists_last, ?_⟩
    intro earlier x later hsplit
    exact hdialogue.env_of_split hsplit

/-- A conflicting module that cannot be unloaded ends the calls. -/
example :
    let loader : Loader Unit := fun verb name _ u =>
      match verb, name with
      | .display, "gcc/13" => (.ok ⟨"conflict intel llvm", []⟩, u)
      | .unload, "llvm" => (.error "in use", u)
      | _, _ => (.ok {}, u)
    let s : Session Unit := .start ∅ ()
    let a : Activation := ⟨"gcc@13", {}, ["gcc/13", "mpi"]⟩
    (a.enter loader.transcribed s.transcribed).2.transcript.map Exchange.call =
      [(.display, "gcc/13"), (.unload, "intel"), (.unload, "llvm")] := by
  decide +kernel

end Activation

end Toolchain
