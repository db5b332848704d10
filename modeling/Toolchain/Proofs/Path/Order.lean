import Mathlib.Data.List.Sort
import Toolchain.Path

/-!
# Sets of paths

Components are ordered by kind and then by name, paths by their components. Both comparisons
are total orders, so a sorted list without repeats is fixed by what it holds. `collect` gives
such a list.

## Main statements

  * `collect_sorted` — every path of a set comes before all that follow it.
  * `mem_of_mem_collect`, `exists_same_mem_collect` — the set has the paths that were given.
  * `mem_collect_iff` — where one path is always one text, it has exactly these texts.
  * `eq_of_sorted_of_mem_iff` — two sets with the same texts are the same list.
-/

namespace Toolchain

namespace Component

/-- The name of a component that has one. -/
def nameOf : Component → String
  | normal name => name
  | _ => ""

theorem compare_eq_compareLex :
    Component.compare = compareLex (compareOn rank) (compareOn nameOf) := by
  funext a b
  cases a <;> cases b <;> rfl

instance : Std.TransCmp Component.compare := by
  rw [compare_eq_compareLex]
  infer_instance

instance : Std.LawfulEqCmp Component.compare where
  compare_self := Std.ReflCmp.compare_self
  eq_of_compare {a b} h := by
    cases a <;> cases b <;> try cases h
    · rfl
    · rfl
    · rfl
    next m n =>
      have he : Ord.compare m n = .eq := h
      rw [Std.LawfulEqCmp.eq_of_compare he]

end Component

namespace Path

/-! ## The order -/

theorem compareComponents_eq : compareComponents = List.compareLex Component.compare := by
  funext as bs
  induction as generalizing bs with
  | nil => cases bs <;> rfl
  | cons a as ih =>
    cases bs with
    | nil => rfl
    | cons b bs =>
      rw [List.compareLex_cons_cons, ← ih]
      rfl

instance : Std.TransCmp compareComponents := by
  rw [compareComponents_eq]
  infer_instance

instance : Std.LawfulEqCmp compareComponents := by
  rw [compareComponents_eq]
  infer_instance

instance : Std.TransCmp Path.compare where
  eq_swap {p q} := Std.OrientedCmp.eq_swap (a := p.components) (b := q.components)
  isLE_trans {p q r} :=
    Std.TransCmp.isLE_trans (a := p.components) (b := q.components) (c := r.components)

theorem compare_eq_iff {p q : Path} : Path.compare p q = .eq ↔ p.same q = true := by
  unfold Path.compare same
  rw [Std.LawfulEqCmp.compare_eq_iff_eq, decide_eq_true_eq]

theorem le_iff {p q : Path} : p.le q = true ↔ (Path.compare p q).isLE = true := by
  unfold Path.le
  cases Path.compare p q <;> decide

theorem le_total (p q : Path) : (p.le q || q.le p) = true := by
  have hs : Path.compare q p = (Path.compare p q).swap := Std.OrientedCmp.eq_swap
  rw [Bool.or_eq_true, le_iff, le_iff, hs]
  cases Path.compare p q <;> decide

theorem le_trans (p q r : Path) (hpq : p.le q = true) (hqr : q.le r = true) : p.le r = true :=
  le_iff.2 (Std.TransCmp.isLE_trans (le_iff.1 hpq) (le_iff.1 hqr))

/-- One path comes before another one. -/
def Before (p q : Path) : Prop := Path.compare p q = .lt

theorem before_of_le {p q : Path} (h : p.le q = true) (hne : p.same q = false) : Before p q := by
  unfold Before
  cases hc : Path.compare p q with
  | lt => rfl
  | eq => rw [compare_eq_iff.1 hc] at hne; cases hne
  | gt => rw [le_iff, hc] at h; cases h

instance : Std.Irrefl Before where
  irrefl p h := by
    have hp : Path.compare p p = .eq := Std.ReflCmp.compare_self
    unfold Before at h
    rw [hp] at h
    cases h

instance : Std.Antisymm Before where
  antisymm p q hpq hqp := by
    have hgt : Path.compare q p = .gt := Std.OrientedCmp.gt_of_lt hpq
    unfold Before at hqp
    rw [hqp] at hgt
    cases hgt

/-- Two sorted lists with the same texts are the same list. -/
theorem eq_of_sorted_of_mem_iff {ps qs : List Path} (hp : ps.Pairwise Before)
    (hq : qs.Pairwise Before) (h : ∀ p, p ∈ ps ↔ p ∈ qs) : ps = qs :=
  hp.eq_of_mem_iff hq h

/-! ## Sets -/

theorem dropRepeats_sublist (ps : List Path) : (dropRepeats ps).Sublist ps := by
  fun_induction dropRepeats ps with
  | case1 => exact List.Sublist.refl _
  | case2 => exact List.Sublist.refl _
  | case3 p q rest h ih => exact ih.cons p
  | case4 p q rest h ih => exact ih.cons_cons p

theorem same_trans {p q r : Path} (h₁ : p.same q = true) (h₂ : q.same r = true) :
    p.same r = true := by
  unfold same at *
  rw [of_decide_eq_true h₁]
  exact h₂

/-- Of every path one text is left. -/
theorem exists_same_mem_dropRepeats {ps : List Path} {p : Path} (hp : p ∈ ps) :
    ∃ q ∈ dropRepeats ps, p.same q = true := by
  fun_induction dropRepeats ps generalizing p with
  | case1 => cases hp
  | case2 r => exact ⟨p, hp, by simp [same]⟩
  | case3 r q rest h ih =>
    rcases List.mem_cons.1 hp with rfl | hp
    · obtain ⟨u, hu, hs⟩ := ih (p := q) List.mem_cons_self
      exact ⟨u, hu, same_trans h hs⟩
    · exact ih hp
  | case4 r q rest h ih =>
    rcases List.mem_cons.1 hp with rfl | hp
    · exact ⟨p, List.mem_cons_self, by simp [same]⟩
    · obtain ⟨u, hu, hs⟩ := ih hp
      exact ⟨u, List.mem_cons_of_mem _ hu, hs⟩

/-- Among sorted paths those that are one path are neighbours, so no two of them are left. -/
theorem sorted_dropRepeats {ps : List Path} (h : ps.Pairwise fun p q => p.le q = true) :
    (dropRepeats ps).Pairwise Before := by
  fun_induction dropRepeats ps with
  | case1 => exact List.Pairwise.nil
  | case2 p => exact List.pairwise_singleton _ p
  | case3 p q rest hs ih => exact ih h.tail
  | case4 p q rest hs ih =>
    refine List.Pairwise.cons (fun r hr => ?_) (ih h.tail)
    -- nothing that is left comes before the next path, and that one is another path
    have hpq : Before p q :=
      before_of_le (List.rel_of_pairwise_cons h List.mem_cons_self) (by simpa using hs)
    rcases List.mem_cons.1 ((dropRepeats_sublist _).subset hr) with rfl | hr
    · exact hpq
    · have hqr := List.rel_of_pairwise_cons h.tail hr
      exact Std.TransCmp.lt_of_lt_of_isLE hpq (le_iff.1 hqr)

/-- Every path of a set comes before all that follow it. -/
theorem collect_sorted (ps : List Path) : (collect ps).Pairwise Before :=
  sorted_dropRepeats (List.pairwise_mergeSort le_trans le_total ps)

theorem mem_of_mem_collect {ps : List Path} {p : Path} (h : p ∈ collect ps) : p ∈ ps :=
  List.mem_mergeSort.1 ((dropRepeats_sublist _).subset h)

theorem exists_same_mem_collect {ps : List Path} {p : Path} (h : p ∈ ps) :
    ∃ q ∈ collect ps, p.same q = true :=
  exists_same_mem_dropRepeats (List.mem_mergeSort.2 h)

/-- Where one path is always one text, a set has exactly the texts that were given. -/
theorem mem_collect_iff {ps : List Path}
    (hps : ∀ p ∈ ps, ∀ q ∈ ps, p.same q = true → p = q) {p : Path} :
    p ∈ collect ps ↔ p ∈ ps := by
  refine ⟨mem_of_mem_collect, fun hp => ?_⟩
  obtain ⟨q, hq, hs⟩ := exists_same_mem_collect hp
  rwa [hps p hp q (mem_of_mem_collect hq) hs]

end Path

end Toolchain
