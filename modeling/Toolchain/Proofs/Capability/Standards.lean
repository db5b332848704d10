import Toolchain.Proofs.Capability

/-!
# Standards of a language

The standards of a language are listed oldest first. One expects that a compiler which has a
flag for a standard has one for every earlier standard too. Which versions have a flag is a
matter of the gates, so for all versions at once this is a comparison of two rows of the table:
each gate of the later standard has a gate of the earlier one that is not above it.

All C standards and the C++ standards from C++11 on are supported downward in every family. Of
C++98 this holds too, except for `nvhpc`, whose row for C++98 is missing although that of C++11
begins with its first version.

  * `Family.Downward` — a version that has a standard has every earlier one.
  * `Undercuts` — a row of the table that is reached wherever another one is.

## Main statements

  * `undercuts_iff` — comparing two rows decides it for all versions.
  * `standards_downward` — which standards are supported downward.
-/

namespace Toolchain

/-! ## Two rows of the table -/

/-- Every gate of the second list has one of the first list that is not above it. -/
def Undercuts (low high : List Gate) : Prop :=
  ∀ h ∈ high, ∃ g ∈ low, (compareNumbers g.since h.since).isLE = true

instance (low high : List Gate) : Decidable (Undercuts low high) :=
  inferInstanceAs (Decidable (∀ h ∈ high, ∃ g ∈ low, _))

namespace Family

variable {f : Family} {p q : Property} {v : Version}

/-- A row undercuts another one exactly if its property has a flag at every version at which the
other one has. -/
theorem undercuts_iff :
    Undercuts (f.gates p) (f.gates q) ↔ ∀ v, f.Supports q v → f.Supports p v := by
  constructor
  · intro h v hq
    obtain ⟨high, hhigh, hreached⟩ := supports_iff.1 hq
    obtain ⟨low, hlow, hle⟩ := h high hhigh
    exact supports_iff.2 ⟨low, hlow, Version.atLeast_of_isLE hle hreached⟩
  · intro h high hhigh
    -- a version whose numbers are those of the gate reaches nothing above it
    let v : Version := ⟨"", high.since⟩
    have hreached : v.atLeast high.since = true := by
      rw [Version.atLeast_iff, compareNumbers_self]
      rfl
    obtain ⟨low, hlow, hlowReached⟩ := supports_iff.1 (h v (supports_iff.2 ⟨high, hhigh, hreached⟩))
    exact ⟨low, hlow, Version.atLeast_iff.1 hlowReached⟩

/-- Every version has a flag that does not depend on the version. -/
theorem supports_of_always {flag : String} (h : f.gates p = always flag) : f.Supports p v :=
  (supports_iff_first h).2 (Version.atLeast_nil v)

/-- Where the row is missing no version has a flag. -/
theorem not_supports_of_nil (h : f.gates p = []) : ¬ f.Supports p v := by
  rw [supports_iff, h]
  simp

/-! ## Standards, oldest first -/

/-- A version that has a flag for a standard has one for every standard before it. -/
def Downward (f : Family) (v : Version) (standards : List Property) : Prop :=
  standards.Pairwise fun earlier later => f.Supports later v → f.Supports earlier v

theorem downward_of_undercuts {standards : List Property}
    (h : standards.Pairwise fun earlier later => Undercuts (f.gates earlier) (f.gates later)) :
    f.Downward v standards := by
  apply h.imp
  intro earlier later hrows
  exact undercuts_iff.1 hrows v

/-- From C++11 on, the rows of the C++ standards undercut all that follow. -/
theorem undercuts_cxx (f : Family) :
    Property.cxxStandards.tail.Pairwise fun earlier later =>
      Undercuts (f.gates earlier) (f.gates later) := by
  cases f <;> decide

/-- The rows of the C standards undercut all that follow. -/
theorem undercuts_c (f : Family) :
    Property.cStandards.Pairwise fun earlier later =>
      Undercuts (f.gates earlier) (f.gates later) := by
  cases f <;> decide

/-- C++98 does not depend on the version: all families have it but one. -/
theorem supports_cxx98_iff : f.Supports .cxx98 v ↔ f ≠ .nvhpc := by
  cases f with
  | nvhpc =>
    have hnone : ¬ nvhpc.Supports .cxx98 v := not_supports_of_nil rfl
    simp [hnone]
  | gcc | clang | appleClang | intel | oneapi | generic =>
    exact iff_of_true (supports_of_always rfl) (by decide)

/-- At every version the C standards are supported downward, and so are the C++ standards from
C++11 on. With C++98 the C++ standards are supported downward exactly outside `nvhpc`. -/
theorem standards_downward (f : Family) (v : Version) :
    (f.Downward v Property.cxxStandards ↔ f ≠ .nvhpc) ∧
    f.Downward v Property.cxxStandards.tail ∧
    f.Downward v Property.cStandards := by
  have hcxx : f.Downward v Property.cxxStandards.tail :=
    downward_of_undercuts (undercuts_cxx f)
  refine ⟨?_, hcxx, downward_of_undercuts (undercuts_c f)⟩
  constructor
  · intro h hf
    subst hf
    -- the row of C++11 has no lower bound, that of C++98 is missing
    have hlater : nvhpc.Supports .cxx11 v := supports_of_always rfl
    have hearlier : nvhpc.Supports .cxx98 v :=
      (List.pairwise_cons.1 h).1 .cxx11 (by decide) hlater
    exact supports_cxx98_iff.1 hearlier rfl
  · intro hf
    refine List.pairwise_cons.2 ⟨?_, hcxx⟩
    intro later _ _
    exact supports_cxx98_iff.2 hf

/-- A version of `nvhpc` with a flag for C++11 and none for C++98. -/
theorem nvhpc_lacks_cxx98 :
    Version.parse? "24.5" = some ⟨"24.5", [24, 5]⟩ ∧
    nvhpc.flag .cxx11 ⟨"24.5", [24, 5]⟩ = .supported "--c++11" ∧
    nvhpc.flag .cxx98 ⟨"24.5", [24, 5]⟩ = .unsupported (.absent .nvhpc) ∧
    ¬ nvhpc.Downward ⟨"24.5", [24, 5]⟩ Property.cxxStandards := by
  refine ⟨by decide, by decide, by decide, ?_⟩
  intro h
  have hearlier := (List.pairwise_cons.1 h).1 .cxx11 (by decide) ⟨"--c++11", by decide⟩
  exact supports_cxx98_iff.1 hearlier rfl

end Family

end Toolchain
