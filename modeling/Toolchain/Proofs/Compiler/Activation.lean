import Toolchain.Proofs.Compiler.Detection
import Toolchain.Proofs.Environment.Failure

/-!
# Activating the environment of a compiler

The environment of a compiler is checked when the compiler is built, whichever way it is
built, and again when it is activated. The first check is enough: an activation never finds
anything wrong with the configuration, only with a module.

  * `Compiler.Built` — the ways of building a compiler.

## Main statements

  * `Built.fault?_eq_none` — every way of building checks the environment.
  * `activation_editAll` — changes to a compiler leave its activation alone.
  * `built_activation_error` — an activation fails only at a module of the compiler.
-/

namespace Toolchain

variable {σ : Type}

namespace Activation

/-- With a mutation that can be made, an activation fails only at a module of its list. -/
theorem enter_error_module {a : Activation} (hfault : a.mutation.fault? = none)
    {loader : Loader σ} {s t : Session σ} {e : CompilerError}
    (h : a.enter loader s = (.error e, t)) :
    ∃ module message, module ∈ a.modules ∧ e = .environment a.compiler module message := by
  rw [enter_of_no_fault hfault] at h
  split at h
  · next e' u hload =>
    obtain ⟨he, -⟩ := Prod.mk.inj h
    obtain ⟨done, module, rest, -, message, hmodules, -, -, rfl⟩ := loadAll_error hload
    refine ⟨module, message, ?_, (Except.error.inj he).symm⟩
    rw [hmodules]
    exact List.mem_append_right done List.mem_cons_self
  · cases h

/-- With a mutation that can be made and without modules, an activation succeeds. -/
theorem enter_of_modules_nil {a : Activation} (hfault : a.mutation.fault? = none)
    (hmodules : a.modules = []) (loader : Loader σ) (s : Session σ) :
    a.enter loader s = (.ok s.enter.1, a.mutate s.enter.2) := by
  rw [enter_of_no_fault hfault, hmodules]
  rfl

end Activation

namespace Compiler

/-! ## Building -/

/-- The ways of building a compiler: from a record, from data that holds one, and from an
installation that was detected on some host. -/
inductive Built : Compiler → Prop where
  | ofRecord {r : Record} {c : Compiler} (h : Compiler.ofRecord r = .ok c) : Built c
  | ofData {d : Data} {c : Compiler} (h : Compiler.ofData d = .ok c) : Built c
  | detected {host : Host} {ps : DetectedPackages} {c : Compiler}
      (h : c ∈ DetectedPackages.compilers host ps) : Built c

/-- Data makes the compiler of the record that it holds. -/
theorem exists_ofRecord_of_ofData {d : Data} {c : Compiler} (h : Compiler.ofData d = .ok c) :
    ∃ r, Compiler.ofRecord r = .ok c := by
  unfold Compiler.ofData at h
  split at h
  · cases h
  · next r _ => exact ⟨r, h⟩

/-- Whichever way a compiler is built, its environment is one that can be made. -/
theorem Built.fault?_eq_none {c : Compiler} (h : Built c) : c.environment.fault? = none := by
  cases h with
  | ofRecord h => exact (recordable_ofRecord h).environment
  | ofData h =>
    obtain ⟨r, hr⟩ := exists_ofRecord_of_ofData h
    exact (recordable_ofRecord hr).environment
  | detected h =>
    obtain ⟨e, -, he⟩ := DetectedPackages.mem_compilers.1 h
    obtain ⟨-, spec, flags, -, -, hfault, rfl⟩ := DetectedExternal.compiler_eq_ok_iff.1 he
    exact hfault

/-! ## Activating -/

/-- No change to a compiler touches what its activation reads: the spec, the environment and
the modules. -/
theorem activation_editAll (c : Compiler) (edits : List Edit) :
    (c.editAll edits).activation = c.activation := by
  induction edits generalizing c with
  | nil => rfl
  | cons e rest ih =>
    have hedit : (c.edit e).activation = c.activation := by cases e <;> rfl
    exact (ih (c.edit e)).trans hedit

/-- However a compiler was built and changed, activating its environment never fails for its
configuration. If it fails, the error names the compiler by its spec, and one of its modules.
Without modules it succeeds. -/
theorem built_activation_error {c₀ : Compiler} (h : Built c₀) (edits : List Edit)
    (loader : Loader σ) (s : Session σ) :
    let c := c₀.editAll edits
    (∀ message t, c.activation.enter loader s ≠ (.error (.invalidConfig message), t)) ∧
      (∀ e t, c.activation.enter loader s = (.error e, t) →
        ∃ module message, module ∈ c.modules ∧ e = .environment c.spec.text module message) ∧
      (c.modules = [] → ∃ g t, c.activation.enter loader s = (.ok g, t)) := by
  intro c
  have hfault : c.activation.mutation.fault? = none := by
    rw [activation_editAll]
    exact h.fault?_eq_none
  have herror : ∀ e t, c.activation.enter loader s = (.error e, t) →
      ∃ module message, module ∈ c.modules ∧ e = .environment c.spec.text module message :=
    fun e t he => Activation.enter_error_module hfault he
  refine ⟨fun message t he => ?_, herror, fun hmodules => ?_⟩
  · obtain ⟨module, message', -, heq⟩ := herror _ t he
    cases heq
  · exact ⟨_, _, Activation.enter_of_modules_nil hfault hmodules loader s⟩

/-- A compiler that was detected on a host without a tag, and whose second module cannot be
loaded. -/
theorem built_activation_error_mpi :
    let host : Host := ⟨"", "x86_64"⟩
    let gcc : DetectedExternal :=
      { spec := "gcc@=13.2.0+fortran", modules := ["gcc/13", "mpi"]
        attributes := { compilers := { c := some ⟨"/usr/bin/gcc"⟩ }
                        environment := some { unset := ["CC"] } } }
    let c₀ : Compiler :=
      { new ⟨"gcc", ⟨"13.2.0", [13, 2, 0]⟩⟩ "" with
        target := some "x86_64", paths := { cc := some ⟨"/usr/bin/gcc"⟩ }
        modules := ["gcc/13", "mpi"], environment := { unset := ["CC"] } }
    let c := c₀.editAll [.path .cc none, .flags .cflags ["-O2"], .clearFlags]
    let loader : Loader Unit := fun verb name _ u =>
      (if verb = .load ∧ name = "mpi" then .error "no such module" else .ok {}, u)
    let s : Session Unit := .start (.ofList [("CC", "cc")]) ()
    c₀ ∈ DetectedPackages.compilers host (.ofList [("gcc", [gcc])]) ∧
      (c.activation.enter loader s).1 =
        .error (.environment "gcc@13.2.0" "mpi" "no such module") ∧
      (∀ message t, c.activation.enter loader s ≠ (.error (.invalidConfig message), t)) ∧
      (∀ e t, c.activation.enter loader s = (.error e, t) →
        ∃ module message, module ∈ c.modules ∧ e = .environment c.spec.text module message) ∧
      (c.modules = [] → ∃ g t, c.activation.enter loader s = (.ok g, t)) := by
  intro host gcc c₀ c loader s
  have hmem : c₀ ∈ DetectedPackages.compilers host (.ofList [("gcc", [gcc])]) := by
    decide +kernel
  exact ⟨hmem, rfl, built_activation_error (.detected hmem) _ loader s⟩

end Compiler

end Toolchain
