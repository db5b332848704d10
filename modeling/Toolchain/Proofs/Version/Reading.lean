import Mathlib.Data.List.Forall2
import Toolchain.Proofs.Spec.Canonical
import Toolchain.Proofs.Text.Runs
import Toolchain.Proofs.Text.Words
import Toolchain.Proofs.Version.Order

/-!
# Reading numbers that were written

Numbers that are written with dots between them are read back as they were, if each of them
fits into a component. So a dotted list of numbers is a version, whose numbers are these. Any
other text is a version too if it begins with such a number.

## Main statements

  * `readWord?_decimal` — a number is read back from its digits.
  * `leadingNumbers_of_run` — how numbers are read, one component after the other.
  * `leadingNumbers_eq_nil_iff` — whether a text has numbers is decided by its first digits.
  * `leadingNumbers_joinWith_append` — numbers are read back, whatever stands behind them.
  * `leadingNumbers_dotted` — numbers are read back from their dotted text.
  * `parse?_dottedOf` — a dotted text is a version.
-/

namespace Toolchain

namespace Text

/-! ## Digits -/

theorem isDigit_eq (c : Char) : isDigit c = c.isDigit := by
  unfold isDigit Char.isDigit
  rfl

theorem isDigit_of_mem_decimal {n : Nat} {c : Char} (h : c ∈ decimal n) : isDigit c = true := by
  rw [isDigit_eq]
  exact Nat.isDigit_of_mem_toDigits (by decide) (by decide) h

theorem not_blank_of_isDigit {c : Char} (h : isDigit c = true) : isBlank c = false := by
  apply Spec.not_blank_of_isNameChar
  rw [isDigit_eq] at h
  simp [Spec.isNameChar, Char.isAlphanum, h]

theorem ne_dot_of_isDigit {c : Char} (h : isDigit c = true) : (c == '.') = false := by
  rw [beq_eq_false_iff_ne]
  intro hdot
  rw [hdot] at h
  cases h

theorem digitsValue_eq (ds : List Char) : digitsValue ds = Nat.ofDigitChars 10 ds 0 := by
  unfold digitsValue Nat.ofDigitChars digitValue
  congr 1
  funext n d
  omega

/-- A number that fits into a component is read back from its digits. -/
theorem readWord?_decimal {n : Nat} (h : n < wordLimit) : readWord? (decimal n) = some n := by
  have hvalue : digitsValue (decimal n) = n := by
    rw [digitsValue_eq]
    exact Nat.ofDigitChars_toDigits (by decide) (by decide)
  have hne : decimal n ≠ [] := Nat.toDigits_ne_nil
  unfold readWord?
  rw [if_neg hne, hvalue]
  exact if_pos h

/-- A component is read if it is a number that is not too large. -/
theorem readWord?_eq_none_iff {digits : List Char} :
    readWord? digits = none ↔ ¬ (digits ≠ [] ∧ Nat.ofDigitChars 10 digits 0 < wordLimit) := by
  unfold readWord?
  rw [digitsValue_eq]
  by_cases hdigits : digits = []
  · simp [hdigits]
  · simp [hdigits]

/-! ## One component after the other -/

/-- The numbers behind a component: those behind a dot, if one follows. -/
def numbersBehind : List Char → List Nat
  | '.' :: rest => leadingNumbers rest
  | _ => []

theorem numbersBehind_of_ne {c : Char} (hc : c ≠ '.') (rest : List Char) :
    numbersBehind (c :: rest) = [] := by
  unfold numbersBehind
  split
  · next h => exact absurd (List.cons.inj h).1 hc
  · rfl

/-- The numbers of a text are that of its first digits, and those behind it. -/
theorem leadingNumbers_of_run {s digits rest : List Char}
    (h : Run (fun c => isDigit c = true) s digits rest) :
    leadingNumbers s =
      match readWord? digits with
      | none => []
      | some n => n :: numbersBehind rest := by
  have hdot : ∀ c ∈ digits, (c == '.') = false := fun c hc => ne_dot_of_isDigit (h.all c hc)
  have hmem : '.' ∉ digits := by
    intro hc
    have hfalse := hdot '.' hc
    cases hfalse
  have hself : digits.takeWhile isDigit = digits := List.takeWhile_eq_self_iff.2 h.all
  unfold leadingNumbers
  rw [h.split]
  cases rest with
  | nil =>
    rw [List.append_nil, pieces_of_notMem hmem, leadingNumbersOf, hself]
    cases readWord? digits with
    | none => rfl
    | some n => exact if_pos rfl
  | cons c t =>
    by_cases hc : c = '.'
    · rw [hc, pieces_append_mark hmem, leadingNumbersOf, hself]
      cases readWord? digits with
      | none => rfl
      | some n => exact if_pos rfl
    · -- the component goes on with something that is no digit, so it is the last one
      obtain ⟨others, hpieces⟩ := exists_pieces_eq (· == '.') (digits ++ c :: t)
      have hfirst : (digits ++ c :: t).takeWhile (fun d => !(d == '.')) =
          digits ++ c :: t.takeWhile (fun d => !(d == '.')) := by
        rw [List.takeWhile_append_of_pos fun d hd => by rw [hdot d hd]; rfl]
        simp [hc]
      have htake : (digits ++ c :: t.takeWhile (fun d => !(d == '.'))).takeWhile isDigit =
          digits := by
        have hstop : isDigit c = false := by simpa using h.stop c rfl
        rw [List.takeWhile_append_of_pos h.all, List.takeWhile_cons, hstop]
        simp
      rw [hpieces, hfirst, leadingNumbersOf, htake, numbersBehind_of_ne hc]
      cases readWord? digits with
      | none => rfl
      | some n => exact if_neg (by simp)

/-- The first digits of a text, and what follows them. -/
theorem run_digits (s : List Char) :
    Run (fun c => isDigit c = true) s (s.takeWhile isDigit) (s.dropWhile isDigit) :=
  (run_iff fun _ => Iff.rfl).2 ⟨rfl, rfl⟩

/-- The numbers of a text depend on its first digits: where these are no number, there is none. -/
theorem leadingNumbers_eq_nil_iff {s : List Char} :
    leadingNumbers s = [] ↔ readWord? (s.takeWhile isDigit) = none := by
  rw [leadingNumbers_of_run (run_digits s)]
  cases readWord? (s.takeWhile isDigit) with
  | none => simp
  | some n => simp

/-! ## Dotted numbers -/

/-- Digits that are read as a number. -/
structure Denotes (digits : List Char) (n : Nat) : Prop where
  all : ∀ c ∈ digits, isDigit c = true
  value : readWord? digits = some n

theorem denotes_decimal {n : Nat} (h : n < wordLimit) : Denotes (decimal n) n where
  all _ hc := isDigit_of_mem_decimal hc
  value := readWord?_decimal h

/-- A number is read up to what does not go on with its digits. -/
theorem leadingNumbers_append {w rest : List Char} {n : Nat} (hw : Denotes w n)
    (hrest : ∀ c, rest.head? = some c → isDigit c = false) :
    leadingNumbers (w ++ rest) = n :: numbersBehind rest := by
  have hrun : Run (fun c => isDigit c = true) (w ++ rest) w rest := by
    refine ⟨rfl, hw.all, ?_⟩
    intro c hc
    simp [hrest c hc]
  rw [leadingNumbers_of_run hrun, hw.value]

/-- Numbers with dots between them are read one after the other, and then what stands behind
them, if this does not go on with the digits of the last one. -/
theorem leadingNumbers_joinWith_append {ws : List (List Char)} {ns : List Nat}
    (h : List.Forall₂ Denotes ws ns) (hne : ns ≠ []) {rest : List Char}
    (hrest : ∀ c, rest.head? = some c → isDigit c = false) :
    leadingNumbers (joinWith ['.'] ws ++ rest) = ns ++ numbersBehind rest := by
  induction h with
  | nil => exact absurd rfl hne
  | @cons w n ws ns hw hws ih =>
    cases hws with
    | nil => exact leadingNumbers_append hw hrest
    | @cons v m ws ns hv hws =>
      have htext : joinWith ['.'] (w :: v :: ws) ++ rest =
          w ++ '.' :: (joinWith ['.'] (v :: ws) ++ rest) := by
        simp [joinWith]
      have hdot : ∀ c, ('.' :: (joinWith ['.'] (v :: ws) ++ rest)).head? = some c →
          isDigit c = false := by
        intro c hc
        rw [← Option.some.inj hc]
        decide
      rw [htext, leadingNumbers_append hw hdot]
      show n :: leadingNumbers (joinWith ['.'] (v :: ws) ++ rest) = _
      rw [ih (by simp)]
      rfl

/-- Numbers are read back from their dotted text. -/
theorem leadingNumbers_dotted {ns : List Nat} (hne : ns ≠ []) (h : ∀ n ∈ ns, n < wordLimit) :
    leadingNumbers (dotted ns) = ns := by
  have hws : List.Forall₂ Denotes (ns.map decimal) ns := by
    rw [List.forall₂_map_left_iff, List.forall₂_same]
    exact fun n hn => denotes_decimal (h n hn)
  have hread : leadingNumbers (joinWith ['.'] (ns.map decimal) ++ []) = ns ++ numbersBehind [] :=
    leadingNumbers_joinWith_append hws hne fun _ hc => by cases hc
  rw [List.append_nil] at hread
  exact hread.trans (List.append_nil ns)

theorem not_blank_of_mem_dotted {ns : List Nat} {c : Char} (h : c ∈ dotted ns) :
    isBlank c = false := by
  rcases mem_of_mem_joinWith h with hdot | ⟨ds, hds, hc⟩
  · rw [List.mem_singleton.1 hdot]
    decide
  · obtain ⟨n, -, rfl⟩ := List.mem_map.1 hds
    exact not_blank_of_isDigit (isDigit_of_mem_decimal hc)

end Text

namespace Version

open Text

/-- Numbers with dots between them are a version with these numbers. -/
theorem parse?_dottedOf {ns : List Nat} (hne : ns ≠ []) (h : ∀ n ∈ ns, n < wordLimit) :
    parse? (dottedOf ns) = some ⟨dottedOf ns, ns⟩ := by
  have htrim : trim (dottedOf ns).toList = dotted ns := by
    rw [dottedOf, String.toList_ofList]
    exact trim_eq_self_of_not_blank fun c hc => not_blank_of_mem_dotted hc
  apply parse?_eq_some.2
  rw [trimmed, htrim, leadingNumbers_dotted hne h]
  exact ⟨hne, rfl⟩

/-- There is a version that reaches a threshold. -/
theorem exists_parse?_atLeast {threshold : List Nat} (h : ∀ n ∈ threshold, n < wordLimit) :
    ∃ text w, parse? text = some w ∧ w.atLeast threshold = true := by
  -- a zero at the end is for the threshold without numbers
  have hlimit : ∀ n ∈ threshold ++ [0], n < wordLimit := by
    intro n hn
    rcases List.mem_append.1 hn with hn | hn
    · exact h n hn
    · rw [List.mem_singleton.1 hn]
      decide
  refine ⟨_, _, parse?_dottedOf (by simp) hlimit, ?_⟩
  rw [atLeast_iff]
  show (compareNumbers threshold (threshold ++ [0])).isLE = true
  rw [compareNumbers_append_zero, compareNumbers_self]
  rfl

end Version

end Toolchain
