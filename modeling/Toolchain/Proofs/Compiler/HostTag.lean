import Toolchain.Proofs.Compiler.Detection
import Toolchain.Proofs.Host.Release

/-!
# Writing detected compilers down

A detected compiler carries the operating-system tag of its host as it is. A record drops the
blanks at the ends of the tag. So a detected compiler is made again from its record exactly if
the tag has none; they can only come from inside the quotes of a release file.

## Main statements

  * `ofRecord_respaced` — what the record of a compiler makes if its tag is written with
    blanks around it.
  * `detected_record_iff` — which detected compilers are made again from their records, and
    what becomes of the others.
-/

namespace Toolchain

namespace Compiler

/-- The blanks around the operating system of a record make no difference. -/
theorem ofRecord_trimmed_operatingSystem (r : Record) (system : String) :
    ofRecord { r with operatingSystem := trimmed system } =
      ofRecord { r with operatingSystem := system } := by
  simp only [ofRecord, trimmed_trimmed]

/-- A recordable compiler is made from its record, also if blanks stand around its operating
system there. -/
theorem ofRecord_respaced {c : Compiler} (h : c.Recordable) {system : String}
    (hsystem : trimmed system = c.operatingSystem) :
    ofRecord { c with operatingSystem := system }.record = .ok c := by
  have hrecord : ofRecord { c.record with operatingSystem := trimmed system } = .ok c := by
    rw [hsystem]
    exact ofRecord_record h
  rw [← hrecord, ofRecord_trimmed_operatingSystem]
  rfl

/-- A record of nothing but blanks for the operating system is refused, if its spec can be
read. -/
theorem ofRecord_of_blank {r : Record} {spec : Spec} (hspec : Spec.read r.spec = .ok spec)
    (hblank : trimmed r.operatingSystem = "") :
    ofRecord r = invalid spec "`operating_system` must not be empty" := by
  simp only [ofRecord, Spec.parse_eq_ok.2 hspec, if_pos hblank]

end Compiler

namespace DetectedPackages

open Compiler

/-- What the record of a detected compiler makes: the compiler with the trimmed tag, or
nothing if the tag is blank. -/
theorem ofRecord_record_of_mem {host : Host} {ps : DetectedPackages} {c : Compiler}
    (h : c ∈ compilers host ps) :
    ofRecord c.record =
      if trimmed host.operatingSystem = "" then
        invalid c.spec "`operating_system` must not be empty"
      else .ok { c with operatingSystem := trimmed host.operatingSystem } := by
  obtain ⟨⟨package, x⟩, -, hx⟩ := mem_compilers.1 h
  obtain ⟨-, spec, flags, hspec, hflags, hfault, rfl⟩ := DetectedExternal.compiler_eq_ok_iff.1 hx
  split
  · next hblank =>
    exact ofRecord_of_blank (Spec.read_text (Spec.canonical_of_read hspec)) hblank
  · next hne =>
    have hmade : ofRecord (x.record host) = .ok (assemble (x.record host) spec flags) :=
      ofRecord_eq_ok.2 ⟨spec, flags, hspec, hne, hflags, hfault, rfl⟩
    exact ofRecord_respaced (recordable_ofRecord hmade) rfl

/-- A compiler that was detected on a host with a tag from a release file is made again from
its record exactly if the tag has no blank at either end. Else the record makes a compiler
with another tag, or none if the tag is blank. Without quotes in the release file the law
holds for all its compilers. -/
theorem detected_record_iff {contents os target : String} {ps : DetectedPackages}
    {c : Compiler} (hos : Host.releaseTag? contents = some os)
    (hc : c ∈ compilers ⟨os, target⟩ ps) :
    (ofRecord c.record = .ok c ↔ Text.Trimmed Text.isBlank os.toList) ∧
      (ofRecord c.record =
        if trimmed os = "" then invalid c.spec "`operating_system` must not be empty"
        else .ok { c with operatingSystem := trimmed os }) ∧
      ('"' ∉ contents.toList → '\'' ∉ contents.toList → ofRecord c.record = .ok c) := by
  have hmade := ofRecord_record_of_mem hc
  have htag : c.operatingSystem = os := by
    obtain ⟨⟨package, x⟩, -, hx⟩ := mem_compilers.1 hc
    obtain ⟨-, spec, flags, -, -, -, rfl⟩ := DetectedExternal.compiler_eq_ok_iff.1 hx
    rfl
  have hne : os ≠ "" := by
    obtain ⟨id, -, hid, rfl⟩ := Host.releaseTag?_eq_some.1 hos
    intro hempty
    exact hid (String.append_eq_empty_iff.1 hempty).1
  have hiff : ofRecord c.record = .ok c ↔ Text.Trimmed Text.isBlank os.toList := by
    rw [← trimmed_eq_self_iff, hmade]
    constructor
    · intro h
      split at h
      · cases h
      · exact (congrArg Compiler.operatingSystem (Except.ok.inj h)).trans htag
    · intro h
      show (if trimmed os = "" then _ else Except.ok { c with operatingSystem := trimmed os }) = _
      rw [h, if_neg hne, ← htag]
  exact ⟨hiff, hmade, fun hdouble hsingle =>
    hiff.2 (Host.trimmed_releaseTag? hdouble hsingle hos)⟩

/-- A release file with quotes, of which the tag has a blank in the middle only. -/
theorem detected_record_iff_ubuntu :
    let contents := "VERSION_ID=\" 22.04\"\nID='ubuntu'\n"
    let ps : DetectedPackages := .ofList [("gcc", [
      { spec := "gcc@13.2.0", attributes := { compilers := { c := some ⟨"/usr/bin/gcc"⟩ } } }])]
    let c : Compiler :=
      { Compiler.new ⟨"gcc", ⟨"13.2.0", [13, 2, 0]⟩⟩ "ubuntu 22.04" with
        target := some "x86_64", paths := { cc := some ⟨"/usr/bin/gcc"⟩ } }
    Host.releaseTag? contents = some "ubuntu 22.04" ∧
      c ∈ compilers ⟨"ubuntu 22.04", "x86_64"⟩ ps ∧
      (ofRecord c.record = .ok c ↔ Text.Trimmed Text.isBlank "ubuntu 22.04".toList) ∧
      (ofRecord c.record =
        if trimmed "ubuntu 22.04" = "" then
          invalid c.spec "`operating_system` must not be empty"
        else .ok { c with operatingSystem := trimmed "ubuntu 22.04" }) ∧
      ('"' ∉ contents.toList → '\'' ∉ contents.toList → ofRecord c.record = .ok c) := by
  intro contents ps c
  have hos : Host.releaseTag? contents = some "ubuntu 22.04" := by decide +kernel
  have hc : c ∈ compilers ⟨"ubuntu 22.04", "x86_64"⟩ ps := by decide +kernel
  exact ⟨hos, hc, detected_record_iff hos hc⟩

/-- A blank inside the quotes of a release file: the detected compiler is written down and
comes back with another tag, or is refused if there is nothing but the blank. -/
theorem quoted_blank_not_made_again :
    let ps : DetectedPackages := .ofList [("gcc", [
      { spec := "gcc@13.2.0", attributes := { compilers := { c := some ⟨"/usr/bin/gcc"⟩ } } }])]
    let detected (os : String) : Compiler :=
      { Compiler.new ⟨"gcc", ⟨"13.2.0", [13, 2, 0]⟩⟩ os with
        target := some "x86_64", paths := { cc := some ⟨"/usr/bin/gcc"⟩ } }
    Host.releaseTag? "ID=\" ubuntu\"\n" = some " ubuntu" ∧
      compilers ⟨" ubuntu", "x86_64"⟩ ps = [detected " ubuntu"] ∧
      ofRecord (detected " ubuntu").record = .ok (detected "ubuntu") ∧
      ofRecord (detected " ubuntu").record ≠ .ok (detected " ubuntu") ∧
      Host.releaseTag? "ID=\" \"\n" = some " " ∧
      compilers ⟨" ", "x86_64"⟩ ps = [detected " "] ∧
      ofRecord (detected " ").record =
        .error (.invalidConfig "gcc@13.2.0: `operating_system` must not be empty") := by
  decide +kernel

end DetectedPackages

end Toolchain
