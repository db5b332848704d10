import Toolchain.Proofs.Compiler.Activation
import Toolchain.Proofs.Environment.Mutation
import Toolchain.Proofs.Environment.Protocol

/-!
# The environment inside a scope

What a successful activation makes of the environment is told variable by variable: the
mutation first, and then the changes of the unloads and loads, in the order of the calls. Of
path variables nothing is lost as long as no entry has a colon, to the letter. An entry with
a colon takes the place of what was there, so entries are only kept where there were none
before.

## Main statements

  * `variables_inside` — the value of each variable inside a scope.
  * `entries_inside` — the entries of each path variable, and when all of them are kept.
  * `entry_with_colon_replaces` — a prepended entry that replaces the others.
-/

namespace Toolchain

variable {σ : Type}

namespace Activation

/-! ## Values -/

/-- After a successful activation, and with no colon in the entries that it adds, a variable
has what the mutation and then the changes of the calls make of it. The changes of a call are
those of an unload or a load, never those of what is shown. A variable that nothing mentions
has its old value. -/
theorem variables_inside {a : Activation} (hfree : a.mutation.ColonFree) {loader : Loader σ}
    {s t : Session σ} {g : Guard} (h : a.enter loader s = (.ok g, t)) :
    let entered := a.enter loader.transcribed s.transcribed
    let changes := entered.2.transcript.flatMap Exchange.changes
    through Prod.fst entered = (.ok g, t) ∧
      (∀ k, t.env.get? k = valueAfter k changes
        (Mutation.withBack (a.mutation.appendPath.get? k)
          (Mutation.withFront (a.mutation.prependPath.get? k)
            (a.mutation.base k (s.env.get? k))))) ∧
      ∀ k, k ∉ a.mutation.unset → a.mutation.set.get? k = none →
        a.mutation.prependPath.get? k = none → a.mutation.appendPath.get? k = none →
        (∀ c ∈ changes, c.1 ≠ k) → t.env.get? k = s.env.get? k := by
  intro entered changes
  have hthrough : through Prod.fst entered = (.ok g, t) :=
    (a.through_transcribed loader s).trans h
  have hok : entered.1.isOk = true := by
    have hanswer : entered.1 = .ok g := congrArg Prod.fst hthrough
    rw [hanswer]
    rfl
  have hvalid : a.mutation.fault? = none := by
    cases hfault : a.mutation.fault? with
    | none => rfl
    | some fault =>
      rw [enter_error_of_fault hfault] at h
      cases h
  -- the scope is what the dialogue has made of the changed variables
  obtain ⟨-, last, hdialogue, hlast⟩ := dialogue_enter hvalid loader s
  have henv : t.env = (a.mutation.apply s.env).changeAll changes := by
    have hsession : t.env = entered.2.env := by
      have hsnd : entered.2.through Prod.fst = t := congrArg Prod.snd hthrough
      rw [← hsnd]
      rfl
    rw [hsession, hlast hok]
    exact hdialogue.last_env hok
  have hvalue : ∀ k, t.env.get? k = valueAfter k changes
      (Mutation.withBack (a.mutation.appendPath.get? k)
        (Mutation.withFront (a.mutation.prependPath.get? k)
          (a.mutation.base k (s.env.get? k)))) := by
    intro k
    rw [henv, get?_changeAll, Mutation.get?_apply_of_free hfree]
  refine ⟨hthrough, hvalue, ?_⟩
  intro k hunset hset hfront hback hchanges
  have hbase : a.mutation.base k (s.env.get? k) = s.env.get? k := by
    unfold Mutation.base
    rw [if_neg hunset, hset]
    rfl
  rw [hvalue, valueAfter_of_unnamed hchanges, hfront, hback, hbase]
  rfl

/-- Two modules, of which the first conflicts with a third, on variables that several parts of
the mutation are about. What is shown is not applied, and the old entries keep their slashes. -/
theorem variables_inside_conflict :
    let mutation : Mutation :=
      { set := .ofList [("CC", "gcc"), ("LIBPATH", "/new/")], unset := ["MANPATH", "CC"]
        prependPath := .ofList [("CC", "/opt"), ("PATH", "/opt/bin/"), ("EMPTY", "/e")]
        appendPath := .ofList [("CC", "/end"), ("LIBPATH", "/lib"), ("PATH", "/extra")] }
    let a : Activation := ⟨"gcc@13", mutation, ["gcc/13", "mpi"]⟩
    let loader : Loader Unit := fun verb name _ u =>
      match verb, name with
      | .display, "gcc/13" => (.ok ⟨"conflict intel", [("PATH", some "shown")]⟩, u)
      | .unload, "intel" => (.ok ⟨"", [("INTEL", none), ("MODE", some "off")]⟩, u)
      | .load, "mpi" => (.ok ⟨"", [("MODE", some "on"), ("LIBPATH", none)]⟩, u)
      | _, _ => (.ok {}, u)
    let s : Session Unit := .start (.ofList [("EMPTY", ""), ("HOME", "/root"), ("INTEL", "1"),
      ("MANPATH", "/man"), ("PATH", "/usr//bin::/bin/")]) ()
    let t := (a.enter loader s).2
    let entered := a.enter loader.transcribed s.transcribed
    let changes := entered.2.transcript.flatMap Exchange.changes
    mutation.ColonFree ∧ a.enter loader s = (.ok s.enter.1, t) ∧
      t.env.toList = [("CC", "/opt:/end"), ("EMPTY", "/e:"), ("HOME", "/root"), ("MODE", "on"),
        ("PATH", "/opt/bin/:/usr//bin::/bin/:/extra")] ∧
      through Prod.fst entered = (.ok s.enter.1, t) ∧
      (∀ k, t.env.get? k = valueAfter k changes
        (Mutation.withBack (mutation.appendPath.get? k)
          (Mutation.withFront (mutation.prependPath.get? k) (mutation.base k (s.env.get? k))))) ∧
      ∀ k, k ∉ mutation.unset → mutation.set.get? k = none →
        mutation.prependPath.get? k = none → mutation.appendPath.get? k = none →
        (∀ c ∈ changes, c.1 ≠ k) → t.env.get? k = s.env.get? k := by
  intro mutation a loader s t entered changes
  have hfree : mutation.ColonFree := ⟨by decide +kernel, by decide +kernel⟩
  have hok : a.enter loader s = (.ok s.enter.1, t) := Prod.ext (by rfl) rfl
  exact ⟨hfree, hok, by decide +kernel, variables_inside hfree hok⟩

/-! ## Entries -/

/-- Without modules an activation that can be made succeeds. A path variable then has the
entries that are prepended, those it had after `set` and `unset`, and those that are appended,
as far as each step spares those before it. This is all of them exactly if no entry with a
colon is added to a variable that has a value by then. -/
theorem entries_inside {a : Activation} (hvalid : a.mutation.fault? = none)
    (hmodules : a.modules = []) (loader : Loader σ) (s : Session σ) :
    ∃ t, a.enter loader s = (.ok s.enter.1, t) ∧ ∀ k,
      let front? := a.mutation.prependPath.get? k
      let back? := a.mutation.appendPath.get? k
      let before := a.mutation.base k (s.env.get? k)
      entriesOf (t.env.get? k) =
          spared back? (entriesOf front? ++ spared front? (entriesOf before))
            ++ entriesOf back? ∧
        (entriesOf (t.env.get? k) = entriesOf front? ++ entriesOf before ++ entriesOf back? ↔
          (∀ entry, front? = some entry → ':' ∈ entry.toList → before = none) ∧
          ∀ entry, back? = some entry → ':' ∈ entry.toList →
            front? = none ∧ before = none) := by
  refine ⟨_, enter_of_modules_nil hvalid hmodules loader s, ?_⟩
  intro k front? back? before
  have hentries : entriesOf ((a.mutate s.enter.2).env.get? k) =
      spared back? (entriesOf front? ++ spared front? (entriesOf before)) ++ entriesOf back? :=
    a.mutation.entriesOf_apply s.env k
  refine ⟨hentries, ?_⟩
  rw [hentries, List.append_left_inj]
  exact spared_both_eq

/-- Entries with a colon are kept with a variable that is not set, and take the place of a
value. -/
theorem entries_inside_three :
    let mutation : Mutation :=
      { prependPath := .ofList [("LIBPATH", "/a:/b"), ("PATH", "/opt/bin")]
        appendPath := .ofList [("MANPATH", "/x:/y"), ("PATH", "/extra")] }
    let a : Activation := ⟨"gcc@13", mutation, []⟩
    let loader : Loader Unit := fun _ _ _ u => (.error "no modules", u)
    let s : Session Unit := .start (.ofList [("LIBPATH", "/lib"), ("PATH", "/usr/bin::/bin")]) ()
    mutation.fault? = none ∧ a.modules = [] ∧
      (a.enter loader s).2.env.toList = [("LIBPATH", "/a:/b"), ("MANPATH", "/x:/y"),
        ("PATH", "/opt/bin:/usr/bin::/bin:/extra")] ∧
      ∃ t, a.enter loader s = (.ok s.enter.1, t) ∧ ∀ k,
        let front? := mutation.prependPath.get? k
        let back? := mutation.appendPath.get? k
        let before := mutation.base k (s.env.get? k)
        entriesOf (t.env.get? k) =
            spared back? (entriesOf front? ++ spared front? (entriesOf before))
              ++ entriesOf back? ∧
          (entriesOf (t.env.get? k) = entriesOf front? ++ entriesOf before ++ entriesOf back? ↔
            (∀ entry, front? = some entry → ':' ∈ entry.toList → before = none) ∧
            ∀ entry, back? = some entry → ':' ∈ entry.toList →
              front? = none ∧ before = none) := by
  intro mutation a loader s
  have hvalid : mutation.fault? = none := by decide +kernel
  exact ⟨hvalid, rfl, by decide +kernel, entries_inside hvalid rfl loader s⟩

/-- A record with two directories in one entry is accepted, and in the scope of its compiler
they are all that is left of the path. -/
theorem entry_with_colon_replaces :
    let r : Record :=
      { spec := "gcc@13", operatingSystem := "linux"
        environment := some { prependPath := .ofList [("PATH", "/opt/a:/opt/b")] } }
    let c : Compiler :=
      { Compiler.new ⟨"gcc", ⟨"13", [13]⟩⟩ "linux" with
        environment := { prependPath := .ofList [("PATH", "/opt/a:/opt/b")] } }
    let s : Session Unit := .start (.ofList [("PATH", "/usr/bin:/bin")]) ()
    let entered := c.activation.enter (fun _ _ _ u => (.error "no modules", u)) s
    Compiler.ofRecord r = .ok c ∧ c.activation.mutation.fault? = none ∧ c.modules = [] ∧
      entered.1.isOk = true ∧
      entriesOf (entered.2.env.get? "PATH") = ["/opt/a", "/opt/b"] ∧
      entriesOf (entered.2.env.get? "PATH") ≠
        pathEntries "/opt/a:/opt/b" ++ entriesOf (s.env.get? "PATH") := by
  decide +kernel

end Activation

end Toolchain
