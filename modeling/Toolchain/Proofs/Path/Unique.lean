import Mathlib.Data.List.Induction
import Toolchain.Proofs.Path.Order

/-!
# Paths each once

`unique` goes through a list and keeps a path unless it has kept the same path before. What is
kept are the paths of the list that stand at their first places; one text is kept of every path.
So a list and a set become an ordered union: the list without repetitions, then what the set
adds to it.

  * `Path.Distinct` — no two texts of a list are one path.
  * `Path.firsts` — the paths at whose places there is no earlier text of the same path.
  * `Path.OrderedUnion` — what the union of a list and a set is.

## Main statements

  * `unique_eq_firsts` — what `unique` keeps, and where.
  * `distinct_unique`, `any_same_unique` — every path is kept once.
  * `unique_append` — the second part of a list adds what is not in the first one.
  * `orderedUnion_unique` — a list and a set become their ordered union.
-/

namespace Toolchain.Path

/-- A list has a text of a path exactly if it has one of the path in another spelling. -/
theorem any_same_congr {ps : List Path} {p q : Path} (h : p.same q = true) :
    ps.any (·.same p) = ps.any (·.same q) := by
  have heq : ∀ r : Path, r.same p = r.same q := by
    intro r
    unfold same
    rw [of_decide_eq_true h]
  simp only [heq]

/-! ## First places -/

/-- The paths of a list at whose places there is no earlier text of the same path, in order. -/
def firsts (ps : List Path) : List Path :=
  (ps.zipIdx.filter fun e => !(ps.take e.2).any (·.same e.1)).map Prod.fst

/-- What a path adds at the end of a list. -/
def fresh (ps : List Path) (p : Path) : List Path := if ps.any (·.same p) then [] else [p]

theorem firsts_concat (ps : List Path) (p : Path) :
    firsts (ps ++ [p]) = firsts ps ++ fresh ps p := by
  -- what stands before a place does not change when the list goes on
  have hearlier : ∀ e ∈ ps.zipIdx, (ps ++ [p]).take e.2 = ps.take e.2 := by
    intro e he
    have hlt : e.2 < ps.length := List.snd_lt_of_mem_zipIdx he
    exact List.take_append_of_le_length hlt.le
  have hlast : (ps ++ [p]).take ps.length = ps := by simp
  unfold firsts
  rw [List.zipIdx_append, List.filter_append, List.map_append]
  congr 1
  · refine congrArg _ (List.filter_congr fun e he => ?_)
    rw [hearlier e he]
  · unfold fresh
    cases hany : ps.any (·.same p) <;> simp [hlast, hany]

theorem unique_concat (ps : List Path) (p : Path) :
    unique (ps ++ [p]) = unique ps ++ fresh (unique ps) p := by
  unfold unique fresh
  rw [List.foldl_append, List.foldl_cons, List.foldl_nil]
  split
  · rw [List.append_nil]
  · rfl

theorem any_same_fresh {ps : List Path} {p q : Path} :
    (ps.any (·.same q) || (fresh ps p).any (·.same q)) = (ps.any (·.same q) || p.same q) := by
  unfold fresh
  split
  · next hany =>
    cases hpq : p.same q with
    | false => simp
    | true =>
      -- the path is in the list already
      rw [any_same_congr hpq] at hany
      rw [hany, Bool.true_or, Bool.true_or]
  · simp

/-- One text is kept of every path. -/
theorem any_same_unique (ps : List Path) (p : Path) :
    (unique ps).any (·.same p) = ps.any (·.same p) := by
  induction ps using List.reverseRecOn with
  | nil => rfl
  | append_singleton ps q ih =>
    rw [unique_concat, List.any_append, any_same_fresh, ih, List.any_append]
    simp

theorem fresh_unique (ps : List Path) (p : Path) : fresh (unique ps) p = fresh ps p := by
  unfold fresh
  rw [any_same_unique]

/-- What is kept are the paths at their first places. -/
theorem unique_eq_firsts (ps : List Path) : unique ps = firsts ps := by
  induction ps using List.reverseRecOn with
  | nil => rfl
  | append_singleton ps p ih =>
    rw [unique_concat, firsts_concat, fresh_unique, ih]

theorem mem_of_mem_unique {ps : List Path} {p : Path} (h : p ∈ unique ps) : p ∈ ps := by
  rw [unique_eq_firsts] at h
  obtain ⟨e, he, rfl⟩ := List.mem_map.1 h
  exact List.fst_mem_of_mem_zipIdx (List.mem_of_mem_filter he)

/-! ## Different paths -/

/-- No two texts are one path. -/
def Distinct (ps : List Path) : Prop := ps.Pairwise fun p q => p.same q = false

theorem distinct_unique (ps : List Path) : Distinct (unique ps) := by
  induction ps using List.reverseRecOn with
  | nil => exact List.Pairwise.nil
  | append_singleton ps p ih =>
    rw [unique_concat]
    unfold fresh
    split
    · rwa [List.append_nil]
    · next hany =>
      refine List.pairwise_append.2 ⟨ih, List.pairwise_singleton _ p, fun q hq r hr => ?_⟩
      obtain rfl := List.mem_singleton.1 hr
      exact Bool.eq_false_iff.2 fun hs => hany (List.any_eq_true.2 ⟨q, hq, hs⟩)

/-- Nothing goes from a list of different paths. -/
theorem unique_of_distinct {ps : List Path} (h : Distinct ps) : unique ps = ps := by
  induction ps using List.reverseRecOn with
  | nil => rfl
  | append_singleton ps p ih =>
    obtain ⟨hps, -, hlast⟩ := List.pairwise_append.1 h
    have hnew : ps.any (·.same p) = false :=
      List.any_eq_false.2 fun q hq => by simp [hlast q hq p (List.mem_singleton_self p)]
    rw [unique_concat, ih hps, fresh, hnew]
    rfl

theorem distinct_of_sorted {ps : List Path} (h : ps.Pairwise Before) : Distinct ps := by
  refine h.imp fun {p q} hbefore => Bool.eq_false_iff.2 fun hs => ?_
  have hlt : Path.compare p q = .lt := hbefore
  rw [compare_eq_iff.2 hs] at hlt
  cases hlt

/-! ## Unions -/

theorem fresh_append (ps qs : List Path) (q : Path) :
    fresh (ps ++ qs) q = (fresh qs q).filter fun q => !ps.any (·.same q) := by
  unfold fresh
  rw [List.any_append]
  cases hps : ps.any (·.same q) <;> cases qs.any (·.same q) <;> simp [hps]

/-- The second part of a list adds the paths that are not in the first one. -/
theorem unique_append (ps qs : List Path) :
    unique (ps ++ qs) = unique ps ++ (unique qs).filter fun q => !ps.any (·.same q) := by
  induction qs using List.reverseRecOn with
  | nil => simp [unique]
  | append_singleton qs q ih =>
    rw [← List.append_assoc, unique_concat, fresh_unique, ih, fresh_append, unique_concat,
      fresh_unique, List.filter_append, List.append_assoc]

/-- Whether a list has a text of a path. -/
def Holds (ps : List Path) (p : Path) : Prop := ∃ q ∈ ps, q.same p = true

theorem any_same_iff {ps : List Path} {p : Path} : ps.any (·.same p) = true ↔ Holds ps p :=
  List.any_eq_true

/-- The union of a list and a set: the paths of the list at their first places, then those of
the set that are not in the list, in path order. -/
structure OrderedUnion (list set whole : List Path) : Prop where
  distinct : Distinct whole
  holds_iff : ∀ p, Holds whole p ↔ Holds list p ∨ Holds set p
  mem : ∀ p ∈ whole, p ∈ list ∨ p ∈ set
  parts : ∃ rest, whole = firsts list ++ rest ∧ rest.Pairwise Before ∧
    ∀ p, p ∈ rest ↔ p ∈ set ∧ ¬ Holds list p

/-- A list and a set become their ordered union. -/
theorem orderedUnion_unique (list : List Path) {set : List Path} (hset : set.Pairwise Before) :
    OrderedUnion list set (unique (list ++ set)) where
  distinct := distinct_unique (list ++ set)
  holds_iff p := by
    rw [← any_same_iff, any_same_unique, List.any_append, Bool.or_eq_true, any_same_iff,
      any_same_iff]
  mem p hp := List.mem_append.1 (mem_of_mem_unique hp)
  parts := by
    refine ⟨set.filter fun p => !list.any (·.same p), ?_, hset.filter _, fun p => ?_⟩
    · rw [unique_append, unique_eq_firsts, unique_of_distinct (distinct_of_sorted hset)]
    · rw [List.mem_filter, Bool.not_eq_true', ← Bool.not_eq_true, any_same_iff]

/-- A path that is spelled in two ways, and one that is found again. -/
example :
    unique ([⟨"/b//x"⟩, ⟨"/a"⟩, ⟨"/b/x/"⟩] ++ [⟨"/a/."⟩, ⟨"/a-b"⟩]) =
      [⟨"/b//x"⟩, ⟨"/a"⟩, ⟨"/a-b"⟩] := by
  decide

end Toolchain.Path
