import Toolchain.Compiler
import Toolchain.Proofs.Flag.Config
import Toolchain.Proofs.Spec.Canonical

/-!
# Compilers and their records

A compiler that was made from a record can be written as a record again, also after its
executables, its flags and its choice about discovery were changed. What is written makes
the same compiler: nothing that the record leaves out (empty lists, an empty environment,
the form in which flags and spec were given) is needed.

  * `Compiler.assemble` — the compiler of a record whose checks have passed.
  * `Compiler.Edit`, `Compiler.editAll` — the changes that can be made to a compiler.
  * `Compiler.Recordable` — what records, and changes, establish for every compiler.

## Main statements

  * `ofRecord_eq_ok` — when a record makes a compiler, and which.
  * `Recordable.editAll` — changes keep a compiler recordable.
  * `ofRecord_record` — a recordable compiler is made again from its record.
  * `record_round_trip` — the law for records, with any changes in between.
-/

namespace Toolchain

theorem Mutation.eq_empty_of_isEmpty {m : Mutation} (h : m.isEmpty = true) : m = {} := by
  obtain ⟨set, unset, prependPath, appendPath⟩ := m
  simp only [isEmpty, Bool.and_eq_true] at h
  obtain ⟨⟨⟨hset, hunset⟩, hprepend⟩, happend⟩ := h
  rw [Dict.eq_empty_of_isEmpty hset, List.isEmpty_iff.1 hunset,
    Dict.eq_empty_of_isEmpty hprepend, Dict.eq_empty_of_isEmpty happend]

namespace Compiler

/-! ## When a record makes a compiler -/

/-- The compiler of a record with this spec and these flags. -/
def assemble (r : Record) (spec : Spec) (flags : FlagSet) : Compiler :=
  { new spec (trimmed r.operatingSystem) with
    target := r.target
    paths := r.paths
    flags
    environment := r.environment.getD {}
    modules := r.modules.getD []
    extraRpaths := r.extraRpaths
    implicitRpaths := r.implicitRpaths }

theorem flagsOf_eq_ok {spec : Spec} {raw : Dict (Option FlagValue)} {flags : FlagSet} :
    flagsOf spec raw = .ok flags ↔ FlagSet.ofConfig raw = .ok flags := by
  unfold flagsOf
  split
  · next message h => simp [invalid, h]
  · rfl

/-- A record makes a compiler exactly if its four checks pass. -/
theorem ofRecord_eq_ok {r : Record} {c : Compiler} :
    ofRecord r = .ok c ↔
      ∃ spec flags, Spec.read r.spec = .ok spec ∧ trimmed r.operatingSystem ≠ "" ∧
        FlagSet.ofConfig r.flags = .ok flags ∧ (r.environment.getD {}).fault? = none ∧
        c = assemble r spec flags := by
  constructor
  · intro h
    simp only [ofRecord] at h
    split at h
    · cases h
    next spec hspec =>
    split at h
    · cases h
    next hsystem =>
    split at h
    · cases h
    next flags hflags =>
    split at h
    · cases h
    next hfault =>
    exact ⟨spec, flags, Spec.parse_eq_ok.1 hspec, hsystem, flagsOf_eq_ok.1 hflags, hfault,
      (Except.ok.inj h).symm⟩
  · rintro ⟨spec, flags, hspec, hsystem, hflags, hfault, rfl⟩
    simp only [ofRecord, Spec.parse_eq_ok.2 hspec, if_neg hsystem, flagsOf_eq_ok.2 hflags, hfault]
    rfl

/-! ## Changes -/

/-- A change to a compiler after it was made. -/
inductive Edit where
  /-- Replaces the executable of a role. -/
  | path (r : Role) (p : Option Path)
  /-- Replaces the flags of a category. -/
  | flags (category : Category) (atoms : List String)
  /-- Takes all flags away. -/
  | clearFlags
  /-- Turns discovery on or off, or leaves it open. -/
  | implicitRpaths (choice : Option Bool)

/-- A compiler after a change. -/
def edit (c : Compiler) : Edit → Compiler
  | .path r p => c.setPath r p
  | .flags category atoms => c.setFlags category atoms
  | .clearFlags => c.clearFlags
  | .implicitRpaths choice => { c with implicitRpaths := choice }

/-- A compiler after changes, the first one first. -/
def editAll (c : Compiler) (edits : List Edit) : Compiler := edits.foldl edit c

/-! ## Recordable compilers -/

/-- What a record establishes for its compiler, and no change takes away. -/
structure Recordable (c : Compiler) : Prop where
  spec : c.spec.Canonical
  family : c.family = .ofName c.spec.name
  verboseFlag : c.verboseFlag = (Family.ofName c.spec.name).verboseFlag?
  operatingSystem_ne : c.operatingSystem ≠ ""
  operatingSystem_trimmed : trimmed c.operatingSystem = c.operatingSystem
  flags : c.flags.Normal
  environment : c.environment.fault? = none

theorem recordable_ofRecord {r : Record} {c : Compiler} (h : ofRecord r = .ok c) :
    c.Recordable := by
  obtain ⟨spec, flags, hspec, hsystem, hflags, hfault, rfl⟩ := ofRecord_eq_ok.1 h
  exact
    { spec := Spec.canonical_of_read hspec
      family := rfl
      verboseFlag := rfl
      operatingSystem_ne := hsystem
      operatingSystem_trimmed := trimmed_trimmed r.operatingSystem
      flags := FlagSet.normal_ofConfig hflags
      environment := hfault }

/-- A change keeps a compiler recordable. -/
theorem Recordable.edit {c : Compiler} (h : c.Recordable) (e : Edit) :
    (c.edit e).Recordable := by
  obtain ⟨hspec, hfamily, hverbose, hne, htrimmed, hflags, henv⟩ := h
  -- only the flags have a form to keep; the other parts that change may be anything
  cases e with
  | path r p => exact ⟨hspec, hfamily, hverbose, hne, htrimmed, hflags, henv⟩
  | flags category atoms =>
    exact ⟨hspec, hfamily, hverbose, hne, htrimmed, FlagSet.normal_set hflags category atoms,
      henv⟩
  | clearFlags =>
    exact ⟨hspec, hfamily, hverbose, hne, htrimmed, FlagSet.normal_empty, henv⟩
  | implicitRpaths choice => exact ⟨hspec, hfamily, hverbose, hne, htrimmed, hflags, henv⟩

/-- Changes keep a compiler recordable. -/
theorem Recordable.editAll {c : Compiler} (h : c.Recordable) (edits : List Edit) :
    (c.editAll edits).Recordable := by
  induction edits generalizing c with
  | nil => exact h
  | cons e rest ih => exact ih (h.edit e)

/-! ## Writing and reading again -/

theorem modules_record (c : Compiler) : c.record.modules.getD [] = c.modules := by
  show (if c.modules = [] then none else some c.modules).getD [] = c.modules
  split
  · next h => exact h.symm
  · rfl

theorem environment_record (c : Compiler) : c.record.environment.getD {} = c.environment := by
  show (if c.environment.isEmpty then none else some c.environment).getD {} = c.environment
  split
  · next h => exact (Mutation.eq_empty_of_isEmpty h).symm
  · rfl

/-- A recordable compiler is made again from its record. -/
theorem ofRecord_record {c : Compiler} (h : c.Recordable) : ofRecord c.record = .ok c := by
  refine ofRecord_eq_ok.2 ⟨c.spec, c.flags, Spec.read_text h.spec, ?_,
    FlagSet.ofConfig_toConfig h.flags, ?_, ?_⟩
  · show trimmed c.operatingSystem ≠ ""
    rw [h.operatingSystem_trimmed]
    exact h.operatingSystem_ne
  · rw [environment_record]
    exact h.environment
  · unfold assemble
    rw [modules_record, environment_record]
    show c = { new c.spec (trimmed c.operatingSystem) with
      target := c.target
      paths := c.paths
      flags := c.flags
      environment := c.environment
      modules := c.modules
      extraRpaths := c.extraRpaths
      implicitRpaths := c.implicitRpaths }
    rw [h.operatingSystem_trimmed]
    -- the family and the flag that shows the link line are those of the name
    obtain ⟨spec, family, operatingSystem, target, paths, flags, environment, modules,
      extraRpaths, implicitRpaths, verboseFlag⟩ := c
    obtain rfl : family = .ofName spec.name := h.family
    obtain rfl : verboseFlag = (Family.ofName spec.name).verboseFlag? := h.verboseFlag
    rfl

/-- A compiler that a record makes is written, after any changes, as a record that makes the
same compiler, and is written the same way again. -/
theorem record_round_trip {r : Record} {c₀ : Compiler} (h : ofRecord r = .ok c₀)
    (edits : List Edit) :
    ∃ c, ofRecord (c₀.editAll edits).record = .ok c ∧ c = c₀.editAll edits ∧
      c.record = (c₀.editAll edits).record :=
  ⟨c₀.editAll edits, ofRecord_record ((recordable_ofRecord h).editAll edits), rfl, rfl⟩

/-- A record in which nothing is in the form that is written: blanks, an exact version with
variants, flags as text, empty modules and an empty environment. -/
theorem record_round_trip_gcc :
    let r : Record :=
      { spec := " gcc @=13.2.0+fortran", operatingSystem := " ubuntu22.04\n"
        flags := .ofList [("cflags", some (.text "-O2 -I /opt")), ("ldlibs", none)]
        modules := some [], environment := some {} }
    let c₀ : Compiler :=
      { new ⟨"gcc", ⟨"13.2.0", [13, 2, 0]⟩⟩ "ubuntu22.04" with
        flags := ⟨[(.cflags, ["-O2", "-I /opt"])]⟩ }
    let edits : List Edit := [.path .cc (some ⟨"/usr/bin/gcc"⟩), .flags .cppflags ["-DX", ""],
      .flags .cflags [], .implicitRpaths (some false)]
    ofRecord r = .ok c₀ ∧
      ∃ c, ofRecord (c₀.editAll edits).record = .ok c ∧ c = c₀.editAll edits ∧
        c.record = (c₀.editAll edits).record :=
  have h : ofRecord _ = .ok _ := rfl
  ⟨h, record_round_trip h _⟩

end Compiler

end Toolchain
