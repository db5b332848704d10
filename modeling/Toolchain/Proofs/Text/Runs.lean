import Toolchain.Proofs.Text.Trim

/-!
# Runs of characters

A run of a class of characters is as long as it can be: it ends with the text, or in front of a
character that is not of the class. So there is exactly one at the beginning of a text.

  * `Run p s run rest` — the run of `p` at the beginning of `s`, and what follows it.

## Main statements

  * `run_iff` — the run is what `takeWhile` takes, and the rest what `dropWhile` leaves.
  * `exists_pieces_eq` — the first piece of a text is a run without separators.
  * `cutAt_eq_some_iff`, `cutAt_eq_none_iff` — when a text is cut in two, and where.
-/

namespace Toolchain.Text

/-! ## Runs -/

/-- `run` is the longest beginning of `s` that has only characters of the class `p`, and `rest`
is what follows it. -/
structure Run (p : Char → Prop) (s run rest : List Char) : Prop where
  split : s = run ++ rest
  all : ∀ c ∈ run, p c
  stop : ∀ c, rest.head? = some c → ¬ p c

/-- A run is found with any test for its class. -/
theorem run_iff {p : Char → Prop} {test : Char → Bool} (htest : ∀ c, test c = true ↔ p c)
    {s run rest : List Char} :
    Run p s run rest ↔ s.takeWhile test = run ∧ s.dropWhile test = rest := by
  constructor
  · intro h
    have hall : ∀ c ∈ run, test c = true := fun c hc => (htest c).2 (h.all c hc)
    have hstop : ∀ c, rest.head? = some c → test c = false := by
      intro c hc
      rw [← Bool.not_eq_true, htest]
      exact h.stop c hc
    have htake : rest.takeWhile test = [] := by
      cases rest with
      | nil => rfl
      | cons c cs => simp [hstop c rfl]
    have hdrop : rest.dropWhile test = rest := dropWhile_eq_self_of_head hstop
    rw [h.split, List.takeWhile_append_of_pos hall, List.dropWhile_append_of_pos hall, htake, hdrop]
    simp
  · intro h
    obtain ⟨rfl, rfl⟩ := h
    constructor
    · exact List.takeWhile_append_dropWhile.symm
    · intro c hc
      exact (htest c).1 (List.mem_takeWhile_imp hc)
    · intro c hc hp
      have hfalse : test c = false := head_dropWhile c hc
      rw [(htest c).2 hp] at hfalse
      cases hfalse

/-! ## First pieces -/

/-- The first piece of a text goes up to the first separator. -/
theorem exists_pieces_eq (p : Char → Bool) (s : List Char) :
    ∃ others, pieces p s = s.takeWhile (fun c => !p c) :: others := by
  induction s with
  | nil => exact ⟨[], rfl⟩
  | cons c cs ih =>
    obtain ⟨others, hothers⟩ := ih
    by_cases hc : p c = true
    · exact ⟨pieces p cs, by simp [pieces, hc]⟩
    · exact ⟨others, by simp [pieces, hc, hothers, consFirst]⟩

/-! ## Sides of a mark -/

theorem cutAt_eq_some_iff {d : Char} {s a b : List Char} :
    cutAt d s = some (a, b) ↔ s = a ++ d :: b ∧ d ∉ a := by
  constructor
  · exact cutAt_eq_some
  · intro h
    rw [h.1]
    exact cutAt_append h.2 b

/-- A text without the mark is not cut. -/
theorem cutAt_eq_none_iff {d : Char} {s : List Char} : cutAt d s = none ↔ d ∉ s := by
  induction s with
  | nil => simp [cutAt]
  | cons c cs ih =>
    by_cases hc : c = d
    · simp [cutAt, hc]
    · have hdc : d ≠ c := Ne.symm hc
      simp [cutAt, hc, hdc, ih]

end Toolchain.Text
