import Toolchain.Detected
import Toolchain.Proofs.Compiler.Record

/-!
# Detected compilers and records

An installation of a package can be written down as a compiler record for the host that it
was found on. Detection makes exactly the compilers that these records make, though it
checks in another order and skips what it cannot use.

  * `DetectedExternal.record` — the record of an installation.

## Main statements

  * `compiler_eq_ok_iff` — when an installation makes a compiler, and which.
  * `compiler_eq_ok` — on a host with a proper tag this is the compiler of its record.
  * `detected_compilers_eq` — the same over all packages.
-/

namespace Toolchain

namespace DetectedExternal

/-- An installation written down as a record for its host. -/
def record (host : Host) (x : DetectedExternal) : Record where
  spec := x.spec
  operatingSystem := host.operatingSystem
  target := some host.target
  paths :=
    { cc := x.attributes.compilers.c
      cxx := x.attributes.compilers.cxx
      f77 := x.attributes.compilers.fortran
      fc := x.attributes.compilers.fortran }
  flags := x.attributes.flags
  modules := some x.modules
  environment := some (x.attributes.environment.getD {})
  extraRpaths := x.attributes.extraRpaths

/-- An installation makes a compiler exactly if it has a C executable and the checks of its
record pass, but for that of the operating system: the tag of the host is taken as it is. -/
theorem compiler_eq_ok_iff {host : Host} {package : String} {x : DetectedExternal}
    {c : Compiler} :
    x.compiler host package = .ok c ↔
      x.attributes.compilers.c.isSome = true ∧
        ∃ spec flags, Spec.read x.spec = .ok spec ∧
          FlagSet.ofConfig x.attributes.flags = .ok flags ∧
          (x.attributes.environment.getD {}).fault? = none ∧
          c = { Compiler.assemble (x.record host) spec flags with
            operatingSystem := host.operatingSystem } := by
  constructor
  · -- a record has its flags checked before its environment, an installation the other way
    -- round; where all checks pass the order makes no difference
    intro h
    simp only [compiler] at h
    split at h
    · cases h
    next spec hspec =>
    split at h
    · cases h
    next cc hcc =>
    split at h
    · cases h
    next hfault =>
    split at h
    · cases h
    next flags hflags =>
    refine ⟨by rw [hcc]; rfl, spec, flags, Spec.parse_eq_ok.1 hspec, hflags, hfault, ?_⟩
    rw [← Except.ok.inj h, Compiler.assemble]
    simp only [record, hcc]
    rfl
  · rintro ⟨hc, spec, flags, hspec, hflags, hfault, rfl⟩
    obtain ⟨cc, hcc⟩ := Option.isSome_iff_exists.1 hc
    simp only [compiler, Spec.parse_eq_ok.2 hspec, hcc, hfault, hflags, Compiler.assemble, record]
    rfl

/-- On a host with a proper tag an installation makes a compiler exactly if it has a C
executable and its record makes this compiler. -/
theorem compiler_eq_ok {host : Host} (hne : host.operatingSystem ≠ "")
    (htrimmed : trimmed host.operatingSystem = host.operatingSystem) {package : String}
    {x : DetectedExternal} {c : Compiler} :
    x.compiler host package = .ok c ↔
      x.attributes.compilers.c.isSome = true ∧ Compiler.ofRecord (x.record host) = .ok c := by
  have hassemble (spec : Spec) (flags : FlagSet) :
      { Compiler.assemble (x.record host) spec flags with
        operatingSystem := host.operatingSystem } =
          Compiler.assemble (x.record host) spec flags := by
    simp only [Compiler.assemble, record, htrimmed]
    rfl
  have hsystem : trimmed (x.record host).operatingSystem ≠ "" := by
    show trimmed host.operatingSystem ≠ ""
    rw [htrimmed]
    exact hne
  rw [compiler_eq_ok_iff, Compiler.ofRecord_eq_ok]
  simp only [hassemble, hsystem, not_false_eq_true, ne_eq, true_and]
  rfl

/-- The same as an equation between what the two ways make, failures aside. -/
theorem toOption_compiler {host : Host} (hne : host.operatingSystem ≠ "")
    (htrimmed : trimmed host.operatingSystem = host.operatingSystem) (package : String)
    (x : DetectedExternal) :
    (x.compiler host package).toOption =
      if x.attributes.compilers.c.isSome = true then (Compiler.ofRecord (x.record host)).toOption
      else none := by
  have hiff (c : Compiler) : x.compiler host package = .ok c ↔
      x.attributes.compilers.c.isSome = true ∧ Compiler.ofRecord (x.record host) = .ok c :=
    compiler_eq_ok hne htrimmed
  cases hx : x.compiler host package with
  | ok c =>
    obtain ⟨hc, hrecord⟩ := (hiff c).1 hx
    rw [if_pos hc, hrecord]
    rfl
  | error message =>
    split
    · next hc =>
      cases hrecord : Compiler.ofRecord (x.record host) with
      | ok c =>
        rw [(hiff c).2 ⟨hc, hrecord⟩] at hx
        cases hx
      | error e => rfl
    · rfl

end DetectedExternal

namespace DetectedPackages

theorem mem_compilers {host : Host} {ps : DetectedPackages} {c : Compiler} :
    c ∈ compilers host ps ↔ ∃ e ∈ externals ps, e.2.compiler host e.1 = .ok c := by
  simp only [compilers, List.mem_filterMap]
  refine exists_congr fun e => and_congr_right fun _ => ?_
  cases e.2.compiler host e.1 <;> simp [Except.toOption]

theorem map_snd_externals (ps : DetectedPackages) :
    (externals ps).map Prod.snd = ps.toList.flatMap Prod.snd := by
  simp [externals, List.map_flatMap, List.map_map, Function.comp_def]

/-- On a host with a proper tag, the compilers of detected packages are those that the
records of the installations with a C executable make: package after package in name order,
and in listed order within a package. The other installations make none. -/
theorem detected_compilers_eq {host : Host} (hne : host.operatingSystem ≠ "")
    (htrimmed : trimmed host.operatingSystem = host.operatingSystem) (ps : DetectedPackages) :
    compilers host ps =
      (ps.toList.flatMap Prod.snd).filterMap fun x =>
        if x.attributes.compilers.c.isSome = true then
          (Compiler.ofRecord (x.record host)).toOption
        else none := by
  rw [← map_snd_externals, List.filterMap_map, compilers]
  refine List.filterMap_congr fun e _ => ?_
  exact DetectedExternal.toOption_compiler hne htrimmed e.1 e.2

/-- Of five installations two make a compiler: the others have no C executable, an unknown
flag category and a variable that cannot be set. -/
theorem detected_compilers_eq_ubuntu :
    let host : Host := ⟨"ubuntu22.04", "x86_64"⟩
    let gcc : DetectedCompilers := { c := some ⟨"/usr/bin/gcc"⟩ }
    let good : DetectedExternal :=
      { spec := "gcc@=13.2.0 languages=c", attributes := { compilers := gcc } }
    let ps : DetectedPackages := .ofList
      [("llvm", [{ spec := "llvm@17+clang", modules := ["llvm/17"]
                   attributes := { compilers := { c := some ⟨"/opt/clang"⟩ } } },
          { spec := "llvm@16", attributes := {} }]),
        ("gcc", [{ good with attributes.flags := .ofList [("fcflags", none)] }, good,
          { good with attributes.environment := some { unset := ["A=B"] } }])]
    host.operatingSystem ≠ "" ∧ trimmed host.operatingSystem = host.operatingSystem ∧
      (compilers host ps).map Compiler.label = ["gcc@13.2.0", "llvm@17"] ∧
      compilers host ps =
        (ps.toList.flatMap Prod.snd).filterMap fun x =>
          if x.attributes.compilers.c.isSome = true then
            (Compiler.ofRecord (x.record host)).toOption
          else none :=
  ⟨by decide, by decide, by decide +kernel, detected_compilers_eq (by decide) (by decide) _⟩

end DetectedPackages

end Toolchain
