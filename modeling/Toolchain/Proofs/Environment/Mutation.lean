import Toolchain.Environment.Mutation
import Toolchain.Proofs.Environment.PathVariable

/-!
# What a mutation makes of each variable

A mutation goes through its variables one after the other, but a variable only ever looks at
its own value. So the environment afterwards is told name by name: what `set` and `unset`
leave of the value, then an entry in front, then one at the back. The same for a list of
changes: of those about one name the last one counts.

  * `Mutation.base` — the value after `set` and `unset`.
  * `withFront`, `withBack` — a value with an entry without a colon at one end.
  * `valueAfter` — the value after changes.

## Main statements

  * `get?_foldl_insert` — going through a map changes each variable by its own entry.
  * `get?_apply` — the value of a variable after a mutation.
  * `get?_apply_of_free` — the same where no entry has a colon, to the letter.
  * `entriesOf_apply` — the entries of a variable after a mutation, whatever its entries are.
  * `get?_changeAll` — the value of a variable after changes.
-/

namespace Toolchain

/-! ## Going through a map -/

/-- Each entry of a map makes a new value from the old one of its variable; the others are as
they were. -/
theorem get?_foldl_insert (f : String → Option String → String) {es : List (String × String)}
    (hsorted : KeySorted es) (env : Environment) (k : String) :
    (es.foldl (fun env e => env.insert e.1 (f e.2 (env.get? e.1))) env).get? k =
      match findEntry k es with
      | none => env.get? k
      | some v => some (f v (env.get? k)) := by
  induction es generalizing env with
  | nil => rfl
  | cons e rest ih =>
    obtain ⟨hlt, hrest⟩ := List.pairwise_cons.1 hsorted
    rw [List.foldl_cons, ih hrest]
    by_cases hk : e.1 = k
    · -- the keys increase, so no later entry is about the same variable
      have hnone : findEntry k rest = none := by
        apply findEntry_eq_none
        intro x hx hxk
        have hlt' := hlt x hx
        rw [hk, hxk] at hlt'
        exact String.lt_irrefl k hlt'
      have hfound : findEntry k (e :: rest) = some e.2 := if_pos hk
      rw [hnone, hfound]
      subst hk
      exact Dict.get?_insert_self ..
    · have hskip : findEntry k (e :: rest) = findEntry k rest := if_neg hk
      have hsame := Dict.get?_insert_ne (Ne.symm hk) env (f e.2 (env.get? e.1))
      rw [hskip, hsame]

namespace Mutation

/-- The value of a variable after `set` and `unset`. -/
def base (m : Mutation) (k : String) (value : Option String) : Option String :=
  if k ∈ m.unset then none else (m.set.get? k).or value

/-! ## The four parts -/

theorem get?_setAll (d : Dict String) (env : Environment) (k : String) :
    (setAll env d.toList).get? k = (d.get? k).or (env.get? k) := by
  have h := get?_foldl_insert (fun v _ => v) d.sorted env k
  refine Eq.trans h ?_
  show (match d.get? k with
    | none => env.get? k
    | some v => some v) = _
  cases d.get? k with
  | none => rfl
  | some v => rfl

theorem get?_eraseAll (env : Environment) (names : List String) (k : String) :
    (eraseAll env names).get? k = if k ∈ names then none else env.get? k := by
  induction names generalizing env with
  | nil => rfl
  | cons name rest ih =>
    show (eraseAll (env.erase name) rest).get? k = _
    rw [ih]
    by_cases hk : k = name
    · subst hk
      simp
    · rw [Dict.get?_erase_ne hk]
      simp [hk]

theorem get?_addAll (place : PathEnd) (d : Dict String) (env : Environment) (k : String) :
    (d.toList.foldl (addEntry place) env).get? k =
      match d.get? k with
      | none => env.get? k
      | some entry => some (withEntry place entry (env.get? k)) :=
  get?_foldl_insert (withEntry place) d.sorted env k

/-! ## The whole -/

/-- A value with the entry of a map at one end, if the map has one. -/
def added (place : PathEnd) (given? value : Option String) : Option String :=
  match given? with
  | none => value
  | some entry => some (withEntry place entry value)

/-- The value of a variable after a mutation. -/
theorem get?_apply (m : Mutation) (env : Environment) (k : String) :
    (m.apply env).get? k =
      added .back (m.appendPath.get? k)
        (added .front (m.prependPath.get? k) (m.base k (env.get? k))) := by
  have hbase : (eraseAll (setAll env m.set.toList) m.unset).get? k = m.base k (env.get? k) := by
    rw [get?_eraseAll, get?_setAll]
    rfl
  have hfront := get?_addAll .front m.prependPath
    (eraseAll (setAll env m.set.toList) m.unset) k
  rw [hbase] at hfront
  unfold apply
  refine (get?_addAll .back m.appendPath _ k).trans ?_
  rw [hfront]
  rfl

/-! ## Entries without a colon -/

/-- A value with an entry and a colon before it. -/
def withFront : (given? value : Option String) → Option String
  | none, value => value
  | some entry, none => some entry
  | some entry, some old => some (entry ++ ":" ++ old)

/-- A value with a colon and an entry behind it. -/
def withBack : (given? value : Option String) → Option String
  | none, value => value
  | some entry, none => some entry
  | some entry, some old => some (old ++ ":" ++ entry)

/-- No entry that is added to a path variable has a colon. -/
structure ColonFree (m : Mutation) : Prop where
  prependPath : ∀ e ∈ m.prependPath.toList, ':' ∉ e.2.toList
  appendPath : ∀ e ∈ m.appendPath.toList, ':' ∉ e.2.toList

theorem added_front {given? : Option String}
    (h : ∀ entry, given? = some entry → ':' ∉ entry.toList) (value : Option String) :
    added .front given? value = withFront given? value := by
  cases given? with
  | none => rfl
  | some entry =>
    cases value with
    | none => exact congrArg some (withEntry_none .front entry)
    | some old => exact congrArg some (withEntry_front (h entry rfl) old)

theorem added_back {given? : Option String}
    (h : ∀ entry, given? = some entry → ':' ∉ entry.toList) (value : Option String) :
    added .back given? value = withBack given? value := by
  cases given? with
  | none => rfl
  | some entry =>
    cases value with
    | none => exact congrArg some (withEntry_none .back entry)
    | some old => exact congrArg some (withEntry_back (h entry rfl) old)

/-- Where no entry has a colon, the old value stands between the new entries as it was. -/
theorem get?_apply_of_free {m : Mutation} (h : m.ColonFree) (env : Environment) (k : String) :
    (m.apply env).get? k =
      withBack (m.appendPath.get? k)
        (withFront (m.prependPath.get? k) (m.base k (env.get? k))) := by
  have hfront : ∀ entry, m.prependPath.get? k = some entry → ':' ∉ entry.toList := by
    intro entry hentry
    exact h.prependPath (k, entry) (Dict.get?_eq_some_iff.1 hentry)
  have hback : ∀ entry, m.appendPath.get? k = some entry → ':' ∉ entry.toList := by
    intro entry hentry
    exact h.appendPath (k, entry) (Dict.get?_eq_some_iff.1 hentry)
  rw [get?_apply, added_front hfront, added_back hback]

/-! ## Entries with or without colons -/

theorem entriesOf_added (place : PathEnd) (given? value : Option String) :
    entriesOf (added place given? value) =
      place.join (entriesOf given?) (spared given? (entriesOf value)) := by
  cases given? with
  | none =>
    show entriesOf value = place.join [] (entriesOf value)
    cases place with
    | front => rfl
    | back => exact (List.append_nil _).symm
  | some entry => exact pathEntries_withEntry place entry value

/-- The entries of a variable after a mutation. -/
theorem entriesOf_apply (m : Mutation) (env : Environment) (k : String) :
    entriesOf ((m.apply env).get? k) =
      spared (m.appendPath.get? k)
          (entriesOf (m.prependPath.get? k) ++
            spared (m.prependPath.get? k) (entriesOf (m.base k (env.get? k))))
        ++ entriesOf (m.appendPath.get? k) := by
  rw [get?_apply, entriesOf_added, entriesOf_added]
  rfl

end Mutation

/-! ## Changes -/

/-- The value of a variable after changes: of those about it the last one counts. -/
def valueAfter (k : String) (cs : List Change) (value : Option String) : Option String :=
  cs.foldl (fun value c => if c.1 = k then c.2 else value) value

theorem get?_change (env : Environment) (c : Change) (k : String) :
    (env.change c).get? k = if c.1 = k then c.2 else env.get? k := by
  by_cases hk : c.1 = k
  · subst hk
    rw [if_pos rfl, Dict.get?_change_self]
  · rw [if_neg hk, Dict.get?_change_ne (Ne.symm hk)]

/-- The value of a variable after changes. -/
theorem get?_changeAll (env : Environment) (cs : List Change) (k : String) :
    (env.changeAll cs).get? k = valueAfter k cs (env.get? k) := by
  induction cs generalizing env with
  | nil => rfl
  | cons c rest ih =>
    show ((env.change c).changeAll rest).get? k = _
    rw [ih, get?_change]
    rfl

/-- Changes to other variables make no difference. -/
theorem valueAfter_of_unnamed {k : String} {cs : List Change} (h : ∀ c ∈ cs, c.1 ≠ k)
    (value : Option String) : valueAfter k cs value = value := by
  induction cs generalizing value with
  | nil => rfl
  | cons c rest ih =>
    have hc : c.1 ≠ k := h c List.mem_cons_self
    show valueAfter k rest (if c.1 = k then c.2 else value) = value
    rw [if_neg hc]
    exact ih (fun x hx => h x (List.mem_cons_of_mem _ hx)) value

end Toolchain
