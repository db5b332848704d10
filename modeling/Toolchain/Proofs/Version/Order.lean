import Toolchain.Version

/-!
# The order of versions

Numbers are compared as if both lists went on with zeros. Up to the longer length this is the
lexicographic order, from which it has its laws. A version that comes after another one
therefore reaches every threshold that this one reaches, whatever their texts are.

## Main statements

  * `compareNumbers_eq_compareLex` — numbers are compared lexicographically, with zeros behind.
  * `atLeast_iff` — a version reaches a threshold if its numbers are not below it.
  * `atLeast_of_le` — later versions reach what earlier ones reach.
-/

namespace Toolchain

/-! ## Numbers -/

/-- The first numbers are compared, then those behind them; where one is missing it is zero. -/
theorem compareNumbers_eq (xs ys : List Nat) :
    compareNumbers xs ys =
      (compare (xs.headD 0) (ys.headD 0)).then (compareNumbers xs.tail ys.tail) := by
  cases xs with
  | cons x xs => rfl
  | nil =>
    cases ys with
    | nil => rfl
    | cons y ys =>
      show (if (y :: ys).all (· == 0) then Ordering.eq else .lt) =
        (compare 0 y).then (if ys.all (· == 0) then .eq else .lt)
      by_cases hy : y = 0
      · subst hy
        simp
      · have hlt : compare 0 y = .lt := Nat.compare_eq_lt.2 (Nat.pos_of_ne_zero hy)
        rw [hlt]
        simp [hy]

theorem rightpad_succ {xs : List Nat} {n : Nat} :
    xs.rightpad (n + 1) 0 = xs.headD 0 :: xs.tail.rightpad n 0 := by
  cases xs with
  | nil => simp [List.rightpad, List.replicate_succ]
  | cons x xs => simp [List.rightpad]

/-- Up to a length that both lists have, they are compared lexicographically. -/
theorem compareNumbers_eq_compareLex {xs ys : List Nat} {n : Nat} (hx : xs.length ≤ n)
    (hy : ys.length ≤ n) :
    compareNumbers xs ys = List.compareLex compare (xs.rightpad n 0) (ys.rightpad n 0) := by
  induction n generalizing xs ys with
  | zero =>
    have hxs : xs = [] := List.length_eq_zero_iff.1 (Nat.le_zero.1 hx)
    have hys : ys = [] := List.length_eq_zero_iff.1 (Nat.le_zero.1 hy)
    rw [hxs, hys]
    rfl
  | succ n ih =>
    -- a list that ends early goes on with zeros, its tail stays empty
    have hxs : xs.tail.length ≤ n := by
      rw [List.length_tail]
      omega
    have hys : ys.tail.length ≤ n := by
      rw [List.length_tail]
      omega
    rw [rightpad_succ, rightpad_succ, List.compareLex_cons_cons, compareNumbers_eq, ih hxs hys]

instance : Std.TransCmp compareNumbers where
  eq_swap {xs ys} := by
    have hx : xs.length ≤ max xs.length ys.length := Nat.le_max_left ..
    have hy : ys.length ≤ max xs.length ys.length := Nat.le_max_right ..
    rw [compareNumbers_eq_compareLex hx hy, compareNumbers_eq_compareLex hy hx]
    exact Std.OrientedCmp.eq_swap
  isLE_trans {xs ys zs} hxy hyz := by
    have hx : xs.length ≤ max xs.length (max ys.length zs.length) := by omega
    have hy : ys.length ≤ max xs.length (max ys.length zs.length) := by omega
    have hz : zs.length ≤ max xs.length (max ys.length zs.length) := by omega
    rw [compareNumbers_eq_compareLex hx hy] at hxy
    rw [compareNumbers_eq_compareLex hy hz] at hyz
    rw [compareNumbers_eq_compareLex hx hz]
    exact Std.TransCmp.isLE_trans hxy hyz

/-! ## Versions -/

namespace Version

variable {v w : Version} {threshold : List Nat}

/-- A version reaches a threshold if its numbers are not below it. -/
theorem atLeast_iff :
    v.atLeast threshold = true ↔ (compareNumbers threshold v.numbers).isLE = true := by
  have hswap : compareNumbers v.numbers threshold =
      (compareNumbers threshold v.numbers).swap := Std.OrientedCmp.eq_swap
  unfold atLeast
  rw [hswap]
  cases compareNumbers threshold v.numbers <;> decide

/-- Every version reaches a threshold without numbers. -/
theorem atLeast_nil (v : Version) : v.atLeast [] = true := by
  rw [atLeast_iff]
  unfold compareNumbers
  split
  · rfl
  · rfl

/-- A threshold that is missed has numbers. -/
theorem ne_nil_of_atLeast_eq_false (h : v.atLeast threshold = false) : threshold ≠ [] := by
  intro hnil
  rw [hnil, atLeast_nil] at h
  cases h

/-- The numbers of a version are not below those of an earlier one. -/
theorem isLE_numbers_of_le (h : v.le w = true) :
    (compareNumbers v.numbers w.numbers).isLE = true := by
  unfold Version.le Version.compare at h
  cases hnumbers : compareNumbers v.numbers w.numbers with
  | lt => rfl
  | eq => rfl
  | gt =>
    rw [hnumbers] at h
    cases h

/-- Later versions reach what earlier ones reach. -/
theorem atLeast_of_le (h : v.le w = true) (hreach : v.atLeast threshold = true) :
    w.atLeast threshold = true :=
  atLeast_iff.2 (Std.TransCmp.isLE_trans (atLeast_iff.1 hreach) (isLE_numbers_of_le h))

/-- A version that reaches a threshold reaches those below it. -/
theorem atLeast_of_isLE {lower : List Nat} (h : (compareNumbers lower threshold).isLE = true)
    (hreach : v.atLeast threshold = true) : v.atLeast lower = true :=
  atLeast_iff.2 (Std.TransCmp.isLE_trans h (atLeast_iff.1 hreach))

end Version

end Toolchain
