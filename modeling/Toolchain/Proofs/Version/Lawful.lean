import Toolchain.Proofs.Spec.Canonical
import Toolchain.Proofs.Version.Order

/-!
# The order of versions and the thresholds they reach

Versions are compared by their numbers and then by their texts. This is a total order, and among
versions that were read from a text only equal ones are in both orders, since the numbers of such
a version are those of its text. The thresholds follow the numbers alone: the numbers of a version
are a threshold too, and a version reaches it exactly if its own numbers are not below. So two
versions that reach each other differ in nothing but zeros at the ends of their numbers.

## Main statements

  * `compareNumbers_append_zeros` — zeros at the end of a threshold change nothing.
  * `compareNumbers_eq_eq_iff` — only zeros at the ends make different numbers compare as equal.
  * `IsRead.eq_of_raw_eq` — versions that were read are equal if their texts are.
  * `order_and_thresholds` — the laws of the order, of the thresholds and of both together.
-/

namespace Toolchain

/-- Of two things that are compared one is not after the other. -/
theorem isLE_total {α : Type} (cmp : α → α → Ordering) [Std.OrientedCmp cmp] (x y : α) :
    (cmp x y).isLE = true ∨ (cmp y x).isLE = true := by
  rw [← Std.OrientedCmp.isGE_eq_isLE (a := x)]
  cases cmp x y <;> decide

/-! ## Zeros at the end -/

theorem compareNumbers_append_zeros (xs ys : List Nat) (n : Nat) :
    compareNumbers xs (ys ++ List.replicate n 0) = compareNumbers xs ys := by
  induction n with
  | zero => simp
  | succ n ih => rw [List.replicate_succ', ← List.append_assoc, compareNumbers_append_zero, ih]

/-- Lists of numbers that differ only in the zeros at their ends. -/
def SameUpToZeros (xs ys : List Nat) : Prop :=
  ∃ stem m n, xs = stem ++ List.replicate m 0 ∧ ys = stem ++ List.replicate n 0

theorem SameUpToZeros.cons {xs ys : List Nat} (x : Nat) (h : SameUpToZeros xs ys) :
    SameUpToZeros (x :: xs) (x :: ys) := by
  obtain ⟨stem, m, n, hxs, hys⟩ := h
  exact ⟨x :: stem, m, n, by simp [hxs], by simp [hys]⟩

/-- What compares as equal to no numbers at all is zeros. -/
theorem eq_replicate_of_compareNumbers_nil {xs : List Nat} (h : compareNumbers xs [] = .eq) :
    xs = List.replicate xs.length 0 := by
  induction xs with
  | nil => rfl
  | cons x xs ih =>
    rw [compareNumbers_eq, Ordering.then_eq_eq] at h
    have hx : x = 0 := Nat.compare_eq_eq.1 h.1
    rw [hx, List.length_cons, List.replicate_succ, ← ih h.2]

/-- Numbers compare as equal exactly if they differ in nothing but zeros at their ends. -/
theorem compareNumbers_eq_eq_iff {xs ys : List Nat} :
    compareNumbers xs ys = .eq ↔ SameUpToZeros xs ys := by
  constructor
  · intro h
    induction xs generalizing ys with
    | nil =>
      -- a missing list is compared as if it were zeros
      have hswap : compareNumbers ys [] = .eq := Std.OrientedCmp.eq_symm h
      exact ⟨[], 0, ys.length, rfl, eq_replicate_of_compareNumbers_nil hswap⟩
    | cons x xs ih =>
      cases ys with
      | nil => exact ⟨[], (x :: xs).length, 0, eq_replicate_of_compareNumbers_nil h, rfl⟩
      | cons y ys =>
        rw [compareNumbers_cons, Ordering.then_eq_eq] at h
        have hxy : x = y := Nat.compare_eq_eq.1 h.1
        rw [← hxy]
        exact (ih h.2).cons x
  · intro h
    obtain ⟨stem, m, n, hxs, hys⟩ := h
    have hstem : compareNumbers xs stem = .eq := by
      apply Std.OrientedCmp.eq_symm
      rw [hxs, compareNumbers_append_zeros, compareNumbers_self]
    rw [hys, compareNumbers_append_zeros, hstem]

namespace Version

variable {a b c : Version} {threshold : List Nat}

/-! ## Versions that were read -/

/-- A version that was read from a text. -/
def IsRead (v : Version) : Prop := ∃ text, Version.parse text = .ok v

theorem parse_eq_ok {text : String} {v : Version} :
    Version.parse text = .ok v ↔ parse? text = some v := by
  unfold Version.parse
  cases parse? text <;> simp

/-- The numbers of a version that was read are those of its text. -/
theorem IsRead.numbers_eq (h : a.IsRead) : a.numbers = Text.leadingNumbers a.raw.toList := by
  obtain ⟨text, htext⟩ := h
  obtain ⟨-, rfl⟩ := parse?_eq_some.1 (parse_eq_ok.1 htext)
  rw [trimmed, String.toList_ofList]

theorem IsRead.eq_of_raw_eq (ha : a.IsRead) (hb : b.IsRead) (h : a.raw = b.raw) : a = b := by
  have hnumbers : a.numbers = b.numbers := by
    rw [ha.numbers_eq, hb.numbers_eq, h]
  cases a
  cases b
  simp_all

/-! ## The order -/

instance : Std.TransCmp fun a b : Version => compareNumbers a.numbers b.numbers where
  eq_swap {v w} := Std.OrientedCmp.eq_swap (a := v.numbers) (b := w.numbers)
  isLE_trans {u v w} :=
    Std.TransCmp.isLE_trans (a := u.numbers) (b := v.numbers) (c := w.numbers)

instance : Std.TransCmp Version.compare :=
  inferInstanceAs (Std.TransCmp (compareLex
    (fun a b : Version => compareNumbers a.numbers b.numbers) (compareOn Version.raw)))

theorem le_iff : a.le b = true ↔ (Version.compare a b).isLE = true := by
  unfold Version.le
  cases Version.compare a b <;> decide

theorem le_total (a b : Version) : a.le b = true ∨ b.le a = true := by
  rw [le_iff, le_iff]
  exact isLE_total Version.compare a b

theorem le_trans (hab : a.le b = true) (hbc : b.le c = true) : a.le c = true :=
  le_iff.2 (Std.TransCmp.isLE_trans (le_iff.1 hab) (le_iff.1 hbc))

/-- Only equal versions are in both orders, of those that were read. -/
theorem IsRead.compare_eq_eq_iff (ha : a.IsRead) (hb : b.IsRead) :
    Version.compare a b = .eq ↔ a = b := by
  constructor
  · intro h
    unfold Version.compare at h
    rw [Ordering.then_eq_eq] at h
    exact ha.eq_of_raw_eq hb (Std.LawfulEqOrd.eq_of_compare h.2)
  · intro h
    rw [h]
    exact Std.ReflCmp.compare_self

theorem IsRead.le_antisymm (ha : a.IsRead) (hb : b.IsRead) (hab : a.le b = true)
    (hba : b.le a = true) : a = b := by
  have heq : Version.compare a b = .eq :=
    Std.OrientedCmp.isLE_antisymm (le_iff.1 hab) (le_iff.1 hba)
  exact (ha.compare_eq_eq_iff hb).1 heq

/-! ## Numbers as thresholds -/

/-- Reaching the numbers of a version is reaching all that it reaches. -/
theorem atLeast_trans (hab : a.atLeast b.numbers = true) (hb : b.atLeast threshold = true) :
    a.atLeast threshold = true :=
  atLeast_of_isLE (atLeast_iff.1 hb) hab

theorem atLeast_total (a b : Version) :
    a.atLeast b.numbers = true ∨ b.atLeast a.numbers = true := by
  rw [atLeast_iff, atLeast_iff]
  exact isLE_total compareNumbers b.numbers a.numbers

/-- Versions reach each other exactly if their numbers differ in zeros at the ends only. -/
theorem atLeast_both_iff :
    a.atLeast b.numbers = true ∧ b.atLeast a.numbers = true ↔
      SameUpToZeros a.numbers b.numbers := by
  rw [← compareNumbers_eq_eq_iff, atLeast_iff, atLeast_iff, and_comm,
    Ordering.eq_eq_iff_isLE_and_isGE, Std.OrientedCmp.isGE_eq_isLE]

/-- Versions are totally ordered, and of those that were read only equal ones, which are those
with the same text, compare as equal. A version reaches the numbers of every version that is not
after it; what it reaches includes all that these reach; of two versions one reaches the other;
both do exactly if their numbers differ in zeros at the ends only; and zeros at the end of a
threshold change nothing. -/
theorem order_and_thresholds (a b c : Version) (threshold : List Nat) (zeros : Nat) :
    (a.le b = true ∨ b.le a = true) ∧
    Version.compare b a = (Version.compare a b).swap ∧
    (a.le b = true → b.le c = true → a.le c = true) ∧
    (a.IsRead → b.IsRead →
      (a.le b = true → b.le a = true → a = b) ∧
      (Version.compare a b = .eq ↔ a = b) ∧ (a = b ↔ a.raw = b.raw)) ∧
    (b.le a = true → a.atLeast b.numbers = true) ∧
    (a.atLeast b.numbers = true → b.atLeast threshold = true → a.atLeast threshold = true) ∧
    (a.atLeast b.numbers = true ∨ b.atLeast a.numbers = true) ∧
    (a.atLeast b.numbers = true ∧ b.atLeast a.numbers = true ↔
      SameUpToZeros a.numbers b.numbers) ∧
    a.atLeast (threshold ++ List.replicate zeros 0) = a.atLeast threshold := by
  refine ⟨le_total a b, Std.OrientedCmp.eq_swap, le_trans, ?_, ?_, atLeast_trans,
    atLeast_total a b, atLeast_both_iff, ?_⟩
  · intro ha hb
    refine ⟨ha.le_antisymm hb, ha.compare_eq_eq_iff hb, ?_, ha.eq_of_raw_eq hb⟩
    intro h
    rw [h]
  · intro h
    exact atLeast_iff.2 (isLE_numbers_of_le h)
  · unfold atLeast
    rw [compareNumbers_append_zeros]

/-- A zero more makes another version, which is after the first one and reaches nothing else. -/
example : IsRead ⟨"13.2", [13, 2]⟩ ∧ IsRead ⟨"13.2.0", [13, 2, 0]⟩ ∧
    Version.compare ⟨"13.2", [13, 2]⟩ ⟨"13.2.0", [13, 2, 0]⟩ = .lt ∧
    atLeast ⟨"13.2", [13, 2]⟩ [13, 2, 0] = true := by
  exact ⟨⟨"13.2", by rfl⟩, ⟨"13.2.0\n", by rfl⟩, by decide, by decide⟩

end Version

end Toolchain
