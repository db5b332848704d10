import Toolchain.Environment.Dump
import Toolchain.Proofs.Environment.Mutation
import Toolchain.Proofs.Environment.Validity
import Toolchain.Proofs.Text.Trim
import Toolchain.Proofs.Text.Words

/-!
# Differences of environment dumps

A dump lists the variables of an environment in any order. Read again it gives the environment
back, but for the four variables that a shell sets by itself. The changes between two
environments are the variables that differ, each with the value that it gets, so making them
leads from the one environment to the other.

  * `Dump.Lists` — a text is a dump of an environment.
  * `Dump.counted` — the variables of an environment that count.

## Main statements

  * `Dump.read_of_lists` — what is read from a dump.
  * `Dump.mem_changes_iff` — which changes lead from one environment to another.
  * `Dump.difference_leads_over` — what two dumps say about their environments.
-/

namespace Toolchain

namespace Dump

/-! ## Dumps -/

/-- An entry as it is written, without the character that ends it. -/
def entryChars (e : String × String) : List Char := e.1.toList ++ '=' :: e.2.toList

theorem toList_write (es : List (String × String)) :
    (write es).toList = es.flatMap fun e => entryChars e ++ [nul] := by
  unfold write
  rw [String.toList_join, List.flatMap_map]
  congr 1
  funext e
  simp [entryChars, nul]

theorem nul_notMem_entryChars {e : String × String} (hname : SettableName e.1)
    (hvalue : SettableValue e.2) : nul ∉ entryChars e := by
  unfold entryChars
  rw [List.mem_append, List.mem_cons, not_or, not_or]
  exact ⟨hname.2.2, by decide, hvalue⟩

/-- The pieces of a dump are its entries, and nothing after the last one. -/
theorem pieces_write {es : List (String × String)} (h : ∀ e ∈ es, nul ∉ entryChars e) :
    Text.pieces (· == nul) (write es).toList = es.map entryChars ++ [[]] := by
  rw [toList_write]
  induction es with
  | nil => rfl
  | cons e rest ih =>
    have he : ∀ c ∈ entryChars e, (c == nul) = false := fun c hc => by
      rw [beq_eq_false_iff_ne]
      rintro rfl
      exact h e List.mem_cons_self hc
    rw [List.flatMap_cons, List.append_assoc, List.singleton_append,
      Text.pieces_append_cons (by simp), Text.pieces_eq_singleton he,
      ih fun x hx => h x (List.mem_cons_of_mem _ hx)]
    rfl

/-- An entry is cut at the sign after its name, whatever its value holds. -/
theorem entry?_entryChars {e : String × String} (hname : SettableName e.1) :
    entry? (entryChars e) = if e.1 ∈ shellVariables then none else some e := by
  unfold entry? entryChars
  rw [Text.cutAt_append hname.2.1]
  simp [hname.1]

/-- A text lists the variables of an environment, in any order. -/
def Lists (env : Environment) (text : String) : Prop :=
  ∃ es, es.Perm env.toList ∧ text = write es

/-- The variables of an environment that count. -/
def counted (env : Environment) : Environment :=
  Dict.ofList (env.toList.filter fun e => e.1 ∉ shellVariables)

theorem nodup_counted_keys (env : Environment) :
    ((env.toList.filter fun e => e.1 ∉ shellVariables).map Prod.fst).Nodup :=
  env.nodup_keys.sublist (List.filter_sublist.map Prod.fst)

theorem get?_counted (env : Environment) (k : String) :
    (counted env).get? k = if k ∈ shellVariables then none else env.get? k := by
  refine Option.ext fun v => ?_
  unfold counted
  rw [Dict.get?_eq_some_iff, Dict.mem_toList_ofList_iff (nodup_counted_keys env),
    List.mem_filter, decide_eq_true_eq]
  split
  next hk => simp [hk]
  next hk => simp [hk, Dict.get?_eq_some_iff]

/-- A dump is read as the variables of its environment that count. -/
theorem read_of_lists {env : Environment} (henv : env.Settable) {text : String}
    (h : Lists env text) : read text = counted env := by
  obtain ⟨es, hperm, rfl⟩ := h
  have hsettable : ∀ e ∈ es, SettableName e.1 ∧ SettableValue e.2 := fun e he =>
    henv e (hperm.mem_iff.1 he)
  have hentries : (es.map entryChars ++ [[]]).filterMap entry? =
      es.filter fun e => e.1 ∉ shellVariables := by
    rw [List.filterMap_append, List.filterMap_map, ← List.filterMap_eq_filter]
    have hlast : [[]].filterMap entry? = [] := rfl
    rw [hlast, List.append_nil]
    refine List.filterMap_congr fun e he => ?_
    rw [Function.comp_apply, entry?_entryChars (hsettable e he).1]
    by_cases hk : e.1 ∈ shellVariables <;> simp [Option.guard, hk]
  unfold read counted
  rw [pieces_write fun e he => nul_notMem_entryChars (hsettable e he).1 (hsettable e he).2,
    hentries]
  exact Dict.ofList_eq_of_perm (nodup_counted_keys env) (hperm.filter _)

/-! ## Changes -/

/-- The changes of variables that get a value. -/
def given (before after : Environment) : List Change :=
  (after.toList.filter fun e => before.get? e.1 ≠ some e.2).map fun e => (e.1, some e.2)

/-- The changes of variables that are removed. -/
def gone (before after : Environment) : List Change :=
  (before.keys.filter fun k => !after.contains k).map (·, none)

theorem changes_eq (before after : Environment) :
    changes before after = (Dict.ofList (given before after ++ gone before after)).toList := rfl

theorem mem_given_iff {before after : Environment} {c : Change} :
    c ∈ given before after ↔ c.2 ≠ none ∧ after.get? c.1 = c.2 ∧ before.get? c.1 ≠ c.2 := by
  obtain ⟨k, value⟩ := c
  simp only [given, List.mem_map, List.mem_filter, decide_eq_true_eq, Prod.mk.injEq]
  constructor
  · rintro ⟨e, ⟨he, hne⟩, rfl, rfl⟩
    exact ⟨by simp, Dict.get?_eq_some_iff.2 he, hne⟩
  · rintro ⟨hsome, hafter, hbefore⟩
    obtain ⟨v, rfl⟩ := Option.ne_none_iff_exists'.1 hsome
    exact ⟨(k, v), ⟨Dict.get?_eq_some_iff.1 hafter, hbefore⟩, rfl, rfl⟩

theorem mem_gone_iff {before after : Environment} {c : Change} :
    c ∈ gone before after ↔ c.2 = none ∧ after.get? c.1 = c.2 ∧ before.get? c.1 ≠ c.2 := by
  obtain ⟨k, value⟩ := c
  simp only [gone, List.mem_map, List.mem_filter, Bool.not_eq_true', Dict.contains_eq_false_iff,
    Dict.mem_keys_iff, Prod.mk.injEq]
  constructor
  · rintro ⟨_, ⟨hbefore, hafter⟩, rfl, rfl⟩
    exact ⟨rfl, hafter, hbefore⟩
  · rintro ⟨rfl, hafter, hbefore⟩
    exact ⟨k, ⟨hbefore, hafter⟩, rfl, rfl⟩

/-- No variable is changed twice. -/
theorem nodup_changed_names (before after : Environment) :
    ((given before after ++ gone before after).map Prod.fst).Nodup := by
  have hgiven : ((given before after).map Prod.fst).Sublist (after.toList.map Prod.fst) := by
    unfold given
    rw [List.map_map]
    exact List.filter_sublist.map Prod.fst
  have hgone : ((gone before after).map Prod.fst).Sublist before.keys := by
    have hnames : (gone before after).map Prod.fst = before.keys.filter fun k => !after.contains k := by
      simp [gone, Function.comp_def]
    rw [hnames]
    exact List.filter_sublist
  rw [List.map_append]
  refine (after.nodup_keys.sublist hgiven).append (before.nodup_keys.sublist hgone) ?_
  -- a variable that gets a value has one afterwards, one that is removed has none
  intro k hk hk'
  obtain ⟨c, hc, rfl⟩ := List.mem_map.1 hk
  obtain ⟨c', hc', hname⟩ := List.mem_map.1 hk'
  obtain ⟨hsome, hafter, -⟩ := mem_given_iff.1 hc
  obtain ⟨hnone, hafter', -⟩ := mem_gone_iff.1 hc'
  rw [hname, hafter, hnone] at hafter'
  exact hsome hafter'

/-- The changes are the variables that differ, with the values that they get. -/
theorem mem_changes_iff {before after : Environment} {c : Change} :
    c ∈ changes before after ↔ after.get? c.1 = c.2 ∧ before.get? c.1 ≠ c.2 := by
  rw [changes_eq, Dict.mem_toList_ofList_iff (nodup_changed_names before after), List.mem_append,
    mem_given_iff, mem_gone_iff, ← or_and_right]
  exact and_iff_right (ne_or_eq c.2 none)

/-- Of two environments the variables that count are compared. -/
theorem mem_changes_counted_iff {before after : Environment} {c : Change} :
    c ∈ changes (counted before) (counted after) ↔
      c.1 ∉ shellVariables ∧ after.get? c.1 = c.2 ∧ before.get? c.1 ≠ c.2 := by
  rw [mem_changes_iff, get?_counted, get?_counted]
  by_cases hk : c.1 ∈ shellVariables
  · rw [if_pos hk, if_pos hk]
    exact ⟨fun h => absurd h.1 h.2, fun h => absurd hk h.1⟩
  · rw [if_neg hk, if_neg hk]
    exact (and_iff_right hk).symm

end Dump

/-- Where two environments can be set, so can their differences. -/
theorem variableFault?_of_differs {before after : Environment} (hbefore : before.Settable)
    (hafter : after.Settable) {c : Change} (hnew : after.get? c.1 = c.2)
    (hold : before.get? c.1 ≠ c.2) : variableFault? c.1 c.2 = none := by
  cases hvalue : c.2 with
  | some v =>
    rw [hvalue] at hnew
    exact variableFault?_some_eq_none.2 (hafter _ (Dict.get?_eq_some_iff.1 hnew))
  | none =>
    rw [hvalue] at hold
    obtain ⟨v, hv⟩ := Option.ne_none_iff_exists'.1 hold
    exact variableFault?_none_eq_none.2 (hbefore _ (Dict.get?_eq_some_iff.1 hv)).1

/-- Of changes to different variables each one counts. -/
theorem valueAfter_of_mem {k : String} {v : Option String} {cs : List Change}
    (hnodup : (cs.map Prod.fst).Nodup) (h : (k, v) ∈ cs) (value : Option String) :
    valueAfter k cs value = v := by
  induction cs generalizing value with
  | nil => cases h
  | cons c rest ih =>
    rw [List.map_cons, List.nodup_cons] at hnodup
    show valueAfter k rest (if c.1 = k then c.2 else value) = v
    rcases List.mem_cons.1 h with rfl | hrest
    · rw [if_pos rfl]
      refine valueAfter_of_unnamed (fun x hx hxk => hnodup.1 ?_) v
      exact List.mem_map.2 ⟨x, hx, hxk⟩
    · exact ih hnodup.2 hrest _

namespace Dump

/-- Making the changes leads from one environment to the other, for the variables that
count. -/
theorem get?_changeAll_counted (before after : Environment) (k : String) :
    (before.changeAll (changes (counted before) (counted after))).get? k =
      if k ∈ shellVariables then before.get? k else after.get? k := by
  rw [get?_changeAll]
  by_cases hdiffers : k ∉ shellVariables ∧ after.get? k ≠ before.get? k
  · have hmem : (k, after.get? k) ∈ changes (counted before) (counted after) :=
      mem_changes_counted_iff.2 ⟨hdiffers.1, rfl, hdiffers.2.symm⟩
    rw [if_neg hdiffers.1]
    exact valueAfter_of_mem (Dict.nodup_keys _) hmem _
  · have hunnamed : ∀ c ∈ changes (counted before) (counted after), c.1 ≠ k := by
      rintro c hc rfl
      obtain ⟨hcounts, hnew, hold⟩ := mem_changes_counted_iff.1 hc
      exact hdiffers ⟨hcounts, by rw [hnew]; exact hold.symm⟩
    rw [valueAfter_of_unnamed hunnamed]
    split
    next => rfl
    next hk => exact (not_not.1 fun hne => hdiffers ⟨hk, hne⟩).symm

/-- What the difference of two dumps says about their environments, in whatever order they
list their variables. Each variable is named at most once, in name order; it is none of those
that a shell sets by itself; its change can be made, and is not made already. Made from the one
environment on, the changes lead to the other one, but for what a shell sets by itself. -/
theorem difference_leads_over {before after : Environment} (hbefore : before.Settable)
    (hafter : after.Settable) {dump dump' : String} (hdump : Lists before dump)
    (hdump' : Lists after dump') :
    KeySorted (difference dump dump') ∧
    (∀ c ∈ difference dump dump', c.1 ∉ shellVariables ∧ variableFault? c.1 c.2 = none ∧
      before.get? c.1 ≠ c.2) ∧
    ∀ k, (before.changeAll (difference dump dump')).get? k =
      if k ∈ shellVariables then before.get? k else after.get? k := by
  have hread : difference dump dump' = changes (counted before) (counted after) := by
    unfold difference
    rw [read_of_lists hbefore hdump, read_of_lists hafter hdump']
  rw [hread]
  refine ⟨Dict.sorted _, fun c hc => ?_, get?_changeAll_counted before after⟩
  obtain ⟨hcounts, hnew, hold⟩ := mem_changes_counted_iff.1 hc
  exact ⟨hcounts, variableFault?_of_differs hbefore hafter hnew hold, hold⟩

/-- An environment with a value that looks like an entry, and one that is empty. -/
def earlierVariables : Environment :=
  Dict.ofList [("A", "B=1\n"), ("EMPTY", ""), ("PWD", "/a"), ("SAME", "=")]

/-- Another one, in which one variable is new, one is changed, and two are gone. -/
def laterVariables : Environment :=
  Dict.ofList [("A", ""), ("NEW", "a\n=b"), ("SAME", "="), ("SHLVL", "2")]

/-- Their dumps lead from the one to the other, and leave `PWD` and `SHLVL` alone. -/
theorem difference_leads_over_later :
    earlierVariables.Settable ∧ laterVariables.Settable ∧
      Lists earlierVariables "PWD=/a\x00A=B=1\n\x00SAME==\x00EMPTY=\x00" ∧
      Lists laterVariables "SHLVL=2\x00SAME==\x00NEW=a\n=b\x00A=\x00" ∧
      ∀ k, (earlierVariables.changeAll [("A", some ""), ("EMPTY", none),
          ("NEW", some "a\n=b")]).get? k =
        if k ∈ shellVariables then earlierVariables.get? k else laterVariables.get? k := by
  have hearlier : earlierVariables.Settable := by decide +kernel
  have hlater : laterVariables.Settable := by decide +kernel
  have hdump : Lists earlierVariables "PWD=/a\x00A=B=1\n\x00SAME==\x00EMPTY=\x00" :=
    ⟨[("PWD", "/a"), ("A", "B=1\n"), ("SAME", "="), ("EMPTY", "")], by decide +kernel, rfl⟩
  have hdump' : Lists laterVariables "SHLVL=2\x00SAME==\x00NEW=a\n=b\x00A=\x00" :=
    ⟨[("SHLVL", "2"), ("SAME", "="), ("NEW", "a\n=b"), ("A", "")], by decide +kernel, rfl⟩
  refine ⟨hearlier, hlater, hdump, hdump', ?_⟩
  exact (difference_leads_over hearlier hlater hdump hdump').2.2

end Dump

end Toolchain
