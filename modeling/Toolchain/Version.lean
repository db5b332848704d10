import Toolchain.Text.Split

/-!
# Compiler versions

A version such as `13.2.0`, `2021.1` or `13.2.0-rc1` is a text with a numeric prefix.
Only the prefix is compared with thresholds; the whole text is what is shown and what two
versions have to share to be equal.

  * `leadingNumbers` — the dotted numbers at the beginning. A component is a run of digits
    below 2^64; one that is followed by anything but a dot is the last.
  * `compareNumbers` — component by component, a missing one counting as zero.
  * `Version.compare` — by numbers, then by text.

## Main statements

`compareNumbers` ignores a zero at the end of a threshold (`compareNumbers_append_zero`).
-/

namespace Toolchain

/-! ## Decimal numbers -/

namespace Text

/-- An ASCII digit. -/
def isDigit (c : Char) : Bool := decide ('0' ≤ c) && decide (c ≤ '9')

/-- The value of a digit. -/
def digitValue (c : Char) : Nat := c.toNat - '0'.toNat

/-- The number that a list of digits denotes, the first digit weighing most. -/
def digitsValue (ds : List Char) : Nat := ds.foldl (fun n d => n * 10 + digitValue d) 0

/-- A number in decimal digits, without leading zeros. -/
def decimal (n : Nat) : List Char := Nat.toDigits 10 n

/-- The first number that a component cannot hold. -/
def wordLimit : Nat := Nat.pow 2 64

/-- A non-empty run of digits as an unsigned 64-bit number. -/
def readWord? (ds : List Char) : Option Nat :=
  if ds = [] then none
  else
    let n := digitsValue ds
    if n < wordLimit then some n else none

/-- The numbers at the beginning of the components of a dotted text. -/
def leadingNumbersOf : List (List Char) → List Nat
  | [] => []
  | part :: rest =>
    let ds := part.takeWhile isDigit
    match readWord? ds with
    | none => []
    | some n => if ds.length = part.length then n :: leadingNumbersOf rest else [n]

/-- The numeric prefix of a dotted text: `13.2.0-rc1` gives 13, 2, 0. -/
def leadingNumbers (s : List Char) : List Nat := leadingNumbersOf (pieces (· == '.') s)

/-- Numbers written with dots between them. -/
def dotted (ns : List Nat) : List Char := joinWith ['.'] (ns.map decimal)

example : leadingNumbers "13.2.0-rc1".toList = [13, 2, 0] := by decide
example : leadingNumbers "1..2".toList = [1] ∧ leadingNumbers "v1".toList = [] := by decide

end Text

/-- Numbers as a dotted string, `4.3`. -/
def dottedOf (ns : List Nat) : String := String.ofList (Text.dotted ns)

/-! ## Comparing numbers -/

/-- Compares component by component; a component that is missing counts as zero. -/
def compareNumbers : List Nat → List Nat → Ordering
  | [], ys => if ys.all (· == 0) then .eq else .lt
  | x :: xs, ys => (compare x (ys.headD 0)).then (compareNumbers xs ys.tail)

@[simp] theorem compareNumbers_self (xs : List Nat) : compareNumbers xs xs = .eq := by
  induction xs with
  | nil => rfl
  | cons x xs ih => simp [compareNumbers, ih]

theorem compareNumbers_cons (x y : Nat) (xs ys : List Nat) :
    compareNumbers (x :: xs) (y :: ys) = (compare x y).then (compareNumbers xs ys) := rfl

/-- A zero at the end of the right-hand list changes nothing. -/
theorem compareNumbers_append_zero (xs ys : List Nat) :
    compareNumbers xs (ys ++ [0]) = compareNumbers xs ys := by
  induction xs generalizing ys with
  | nil => simp [compareNumbers]
  | cons x xs ih =>
    cases ys with
    | nil => simp [compareNumbers]
    | cons y ys => simp [compareNumbers_cons, ih]

/-! ## The type -/

/-- A version: its text without blanks at the ends, and the numbers at its beginning. -/
structure Version where
  raw : String
  numbers : List Nat
  deriving DecidableEq, Repr

namespace Version

/-- Reads a version. The text has to begin with a number. -/
def parse? (text : String) : Option Version :=
  let raw := Text.trim text.toList
  match Text.leadingNumbers raw with
  | [] => none
  | ns => some ⟨String.ofList raw, ns⟩

/-- The whole text. -/
instance : ToString Version := ⟨Version.raw⟩

/-- Whether a version reaches a threshold. -/
def atLeast (v : Version) (threshold : List Nat) : Bool :=
  compareNumbers v.numbers threshold != .lt

/-- Versions are ordered by their numbers, and among equal numbers by their text. -/
protected def compare (a b : Version) : Ordering :=
  (compareNumbers a.numbers b.numbers).then (Ord.compare a.raw b.raw)

instance : Ord Version := ⟨Version.compare⟩

/-- `a` comes before `b` or with it. -/
protected def le (a b : Version) : Bool := Version.compare a b != .gt

/-- Versions in increasing order; equal ones keep their places. -/
def sort (vs : List Version) : List Version := vs.mergeSort Version.le

end Version

end Toolchain
