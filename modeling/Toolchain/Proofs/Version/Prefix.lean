import Toolchain.Proofs.Capability
import Toolchain.Proofs.Spec.Grammar
import Toolchain.Proofs.Version.Lawful

/-!
# The numeric prefix of a version

A version begins with numbers, and goes on with a suffix or ends. How the numbers are written is
free: any zeros may stand in front of them. What stands behind them is not counted as a number if
it ends the last one and begins no further one: it ends the text, or begins with something else
than a digit or a dot, or with a dot behind which no number stands that a component can hold.
Then the numbers are read exactly.

  * `Writes` — how a number is written.
  * `Stops` — what may stand behind the numbers, one constructor for each kind.

## Main statements

  * `stops_iff` — these are the suffixes that go on neither with a digit nor with a number.
  * `leadingNumbers_trim` — blanks at the end of a text change none of its numbers.
  * `numeric_prefix_exact` — the numbers of a version are those that were written in front of
    its suffix.
-/

namespace Toolchain

open Text Spec

/-! ## Written numbers -/

/-- A number in decimal, with any zeros in front. -/
def Writes (digits : List Char) (n : Nat) : Prop :=
  ∃ zeros, digits = List.replicate zeros '0' ++ decimal n

/-- Zeros in front of a number change nothing. -/
theorem Writes.denotes {digits : List Char} {n : Nat} (h : Writes digits n)
    (hn : n < wordLimit) : Denotes digits n := by
  obtain ⟨zeros, rfl⟩ := h
  have hvalue : digitsValue (List.replicate zeros '0' ++ decimal n) = n := by
    rw [digitsValue_eq, Nat.ofDigitChars_append, Nat.ofDigitChars_replicate_zero, Nat.mul_zero]
    exact Nat.ofDigitChars_toDigits (by decide) (by decide)
  have hne : List.replicate zeros '0' ++ decimal n ≠ [] := by
    intro hnil
    exact Nat.toDigits_ne_nil (List.append_eq_nil_iff.1 hnil).2
  constructor
  · intro c hc
    rcases List.mem_append.1 hc with hzero | hdigit
    · rw [List.eq_of_mem_replicate hzero]
      decide
    · exact isDigit_of_mem_decimal hdigit
  · unfold readWord?
    rw [if_neg hne, hvalue]
    exact if_pos hn

theorem denotes_all {ws : List (List Char)} {ns : List Nat} (h : List.Forall₂ Writes ws ns)
    (hfits : ∀ n ∈ ns, n < wordLimit) : List.Forall₂ Denotes ws ns := by
  induction h with
  | nil => exact .nil
  | cons hw _ ih =>
    obtain ⟨hn, hns⟩ := List.forall_mem_cons.1 hfits
    exact .cons (hw.denotes hn) (ih hns)

/-! ## Suffixes -/

/-- What may stand behind the numbers of a version without being one of them. -/
inductive Stops : List Char → Prop where
  /-- The text ends. -/
  | nothing : Stops []
  /-- Something else than a digit or a dot. -/
  | other {c : Char} {rest : List Char} (hdigit : ¬ Digit c) (hdot : c ≠ '.') : Stops (c :: rest)
  /-- A dot at the end. -/
  | dot : Stops ['.']
  /-- A dot, and something else than a digit. -/
  | dotOther {c : Char} {rest : List Char} (hdigit : ¬ Digit c) : Stops ('.' :: c :: rest)
  /-- A dot, and digits of which the value does not fit into a component. -/
  | tooLarge {s digits rest : List Char} (run : Run Digit s digits rest)
      (hvalue : wordLimit ≤ Nat.ofDigitChars 10 digits 0) : Stops ('.' :: s)

/-- A text without a number at its beginning is empty, or begins with something else than a
digit, or with digits of which the value is too large. -/
theorem stops_dot_iff {s : List Char} : Stops ('.' :: s) ↔ leadingNumbers s = [] := by
  have hnone : leadingNumbers s = [] ↔ ¬ BeginsWithNumber s := by
    rw [beginsWithNumber_iff, Ne, not_not]
  rw [hnone]
  constructor
  · intro h hnumber
    obtain ⟨digits, rest, hrun, hne, hfits⟩ := hnumber
    cases h with
    | other _ hdot => exact hdot rfl
    | dot => exact hne (List.append_eq_nil_iff.1 hrun.split.symm).1
    | @dotOther c others hdigit =>
      -- the run would begin with this character
      cases digits with
      | nil => exact hne rfl
      | cons d ds =>
        obtain ⟨rfl, -⟩ := List.cons.inj hrun.split
        exact hdigit (hrun.all _ List.mem_cons_self)
    | tooLarge hrun' hvalue =>
      obtain ⟨hdigits, -⟩ := (run_iff isDigit_iff).1 hrun
      obtain ⟨hdigits', -⟩ := (run_iff isDigit_iff).1 hrun'
      rw [← hdigits', hdigits] at hvalue
      exact absurd hfits (Nat.not_lt.2 hvalue)
  · intro h
    cases s with
    | nil => exact .dot
    | cons c t =>
      by_cases hdigit : Digit c
      · have hrun : Run Digit (c :: t) _ _ := (run_iff isDigit_iff).2 ⟨rfl, rfl⟩
        have hne : (c :: t).takeWhile isDigit ≠ [] := by
          rw [List.takeWhile_cons, (isDigit_iff c).2 hdigit]
          simp
        refine .tooLarge hrun (Nat.not_lt.1 ?_)
        intro hfits
        exact h ⟨_, _, hrun, hne, hfits⟩
      · exact .dotOther hdigit

/-- A suffix goes on neither with a digit nor with a number behind a dot. -/
theorem stops_iff {x : List Char} :
    Stops x ↔ (∀ c, x.head? = some c → isDigit c = false) ∧ numbersBehind x = [] := by
  cases x with
  | nil =>
    constructor
    · intro _
      refine ⟨?_, rfl⟩
      intro c hc
      cases hc
    · intro _
      exact .nothing
  | cons c rest =>
    have hhead : (∀ d, (c :: rest).head? = some d → isDigit d = false) ↔ ¬ Digit c := by
      rw [← isDigit_iff]
      simp
    rw [hhead]
    by_cases hdot : c = '.'
    · subst hdot
      have hmark : ¬ Digit '.' := by
        rw [← isDigit_iff]
        decide
      exact stops_dot_iff.trans ⟨fun h => ⟨hmark, h⟩, fun h => h.2⟩
    · constructor
      · intro h
        refine ⟨?_, numbersBehind_of_ne hdot rest⟩
        cases h with
        | other hdigit _ => exact hdigit
        | dot => exact absurd rfl hdot
        | dotOther _ => exact absurd rfl hdot
        | tooLarge _ _ => exact absurd rfl hdot
      · intro h
        exact .other h.1 hdot

/-! ## Blanks at the end -/

/-- Blanks at the end of a text change none of its numbers. -/
theorem leadingNumbers_append_blanks {b : List Char} (hb : ∀ c ∈ b, isBlank c = true)
    (s : List Char) : leadingNumbers (s ++ b) = leadingNumbers s := by
  have hdigit : ∀ c, b.head? = some c → ¬ isDigit c = true := by
    intro c hc hdigit
    have hblank := hb c (List.mem_of_head? hc)
    rw [not_blank_of_isDigit hdigit] at hblank
    cases hblank
  have hdot : numbersBehind b = [] := by
    cases b with
    | nil => rfl
    | cons c cs =>
      apply numbersBehind_of_ne
      rintro rfl
      have hblank := hb '.' List.mem_cons_self
      cases hblank
  -- one component after the other: the blanks stand behind all digits of each of them
  induction hlength : s.length using Nat.strong_induction_on generalizing s with
  | _ k ih =>
    have hdigits := run_digits s
    have hrun : Run (fun c => isDigit c = true) (s ++ b) (s.takeWhile isDigit)
        (s.dropWhile isDigit ++ b) := by
      refine ⟨?_, hdigits.all, ?_⟩
      · rw [← List.append_assoc, ← hdigits.split]
      · intro c hc
        rw [List.head?_append, Option.or_eq_some_iff] at hc
        rcases hc with hc | ⟨-, hc⟩
        · exact hdigits.stop c hc
        · exact hdigit c hc
    have hbehind : numbersBehind (s.dropWhile isDigit ++ b) =
        numbersBehind (s.dropWhile isDigit) := by
      have hle : (s.dropWhile isDigit).length ≤ s.length := (List.dropWhile_sublist _).length_le
      cases hdrop : s.dropWhile isDigit with
      | nil => exact hdot
      | cons c t =>
        rw [hdrop, List.length_cons] at hle
        by_cases hc : c = '.'
        · subst hc
          exact ih t.length (by omega) t rfl
        · rw [List.cons_append, numbersBehind_of_ne hc, numbersBehind_of_ne hc]
    rw [leadingNumbers_of_run hrun, leadingNumbers_of_run hdigits, hbehind]

/-- A text with numbers begins with a digit. -/
theorem isDigit_head_of_leadingNumbers {s : List Char} (h : leadingNumbers s ≠ []) {c : Char}
    (hc : s.head? = some c) : isDigit c = true := by
  cases s with
  | nil => cases hc
  | cons d rest =>
    obtain rfl := Option.some.inj hc
    by_contra hdigit
    apply h
    rw [leadingNumbers_eq_nil_iff, List.takeWhile_cons, if_neg hdigit]
    rfl

/-- Trimming a text with numbers changes none of them. -/
theorem leadingNumbers_trim {s : List Char} (h : leadingNumbers s ≠ []) :
    leadingNumbers (trim s) = leadingNumbers s := by
  obtain ⟨core, tail, hs, htail, hlast⟩ := exists_trimmed_end isBlank s
  -- a number does not begin with a blank
  have hcore : Trimmed isBlank core := by
    refine ⟨?_, hlast⟩
    intro c hc
    have hhead : s.head? = some c := by
      rw [hs, List.head?_append, hc]
      rfl
    exact not_blank_of_isDigit (isDigit_head_of_leadingNumbers h hhead)
  rw [hs, trim_append_blanks htail, leadingNumbers_append_blanks htail]
  exact congrArg leadingNumbers (trimBoth_eq_self hcore)

/-! ## Versions -/

namespace Version

variable {ns : List Nat}

/-- A text that begins with numbers is a version with these numbers. -/
theorem parse_of_leadingNumbers {text : String} (h : leadingNumbers text.toList = ns)
    (hne : ns ≠ []) : parse text = .ok ⟨trimmed text, ns⟩ := by
  have htrim : leadingNumbers (trim text.toList) = ns := by
    rw [leadingNumbers_trim (by rw [h]; exact hne), h]
  rw [parse_eq_ok, parse?_eq_some, htrim]
  exact ⟨hne, rfl⟩

/-- Numbers with dots between them are a version with these numbers. -/
theorem parse_dottedOf (hne : ns ≠ []) (h : ∀ n ∈ ns, n < wordLimit) :
    parse (dottedOf ns) = .ok ⟨dottedOf ns, ns⟩ :=
  parse_eq_ok.2 (parse?_dottedOf hne h)

/-- A threshold that a version misses is read back from how it is shown. -/
theorem parse_missed {f family : Family} {p : Property} {v : Version} {since : List Nat}
    (h : f.flag p v = .unsupported (.tooOld family since)) :
    parse (dottedOf since) = .ok ⟨dottedOf since, since⟩ := by
  obtain ⟨hmissed, hwhy⟩ := Family.flag_eq_unsupported.1 h
  cases hgates : f.gates p with
  | nil =>
    rw [hgates] at hwhy
    cases hwhy
  | cons first rest =>
    rw [hgates] at hwhy
    obtain ⟨-, rfl⟩ := Shortfall.tooOld.inj hwhy
    have hfirst : first ∈ f.gates p := by
      rw [hgates]
      exact List.mem_cons_self
    have hne : first.since ≠ [] := ne_nil_of_atLeast_eq_false (hmissed first hfirst)
    exact parse_dottedOf hne (Family.lt_wordLimit hfirst)

/-- The numbers of a version are those that were written in front of its suffix, however many
zeros stand in front of them. In particular numbers are read back from how they are shown, and
so is every threshold that a message names. -/
theorem numeric_prefix_exact {ws : List (List Char)} (hws : List.Forall₂ Writes ws ns)
    (hne : ns ≠ []) (hfits : ∀ n ∈ ns, n < wordLimit) {x : List Char} (hx : Stops x) :
    parse (String.ofList (joinWith ['.'] ws ++ x)) =
        .ok ⟨trimmed (String.ofList (joinWith ['.'] ws ++ x)), ns⟩ ∧
      parse (dottedOf ns) = .ok ⟨dottedOf ns, ns⟩ ∧
      ∀ (f family : Family) (p : Property) (v : Version) (since : List Nat),
        f.flag p v = .unsupported (.tooOld family since) →
          parse (dottedOf since) = .ok ⟨dottedOf since, since⟩ := by
  refine ⟨?_, parse_dottedOf hne hfits, fun f family p v since h => parse_missed h⟩
  obtain ⟨hdigit, hbehind⟩ := stops_iff.1 hx
  apply parse_of_leadingNumbers _ hne
  rw [String.toList_ofList, leadingNumbers_joinWith_append (denotes_all hws hfits) hne hdigit,
    hbehind, List.append_nil]

/-- The last number that a component can hold, zeros in front of a number, and a suffix that is
a number too large. -/
theorem numeric_prefix_exact_limit :
    let ws := ["013".toList, "18446744073709551615".toList, "000".toList]
    let ns := [13, 18446744073709551615, 0]
    let x := ".18446744073709551616-rc1 ".toList
    List.Forall₂ Writes ws ns ∧ ns ≠ [] ∧ (∀ n ∈ ns, n < wordLimit) ∧ Stops x ∧
      parse (String.ofList (joinWith ['.'] ws ++ x)) =
        .ok ⟨"013.18446744073709551615.000.18446744073709551616-rc1",
          [13, 18446744073709551615, 0]⟩ := by
  intro ws ns x
  have hws : List.Forall₂ Writes ws ns :=
    .cons ⟨1, by decide⟩ (.cons ⟨0, by decide +kernel⟩ (.cons ⟨2, by decide⟩ .nil))
  have hne : ns ≠ [] := List.cons_ne_nil _ _
  have hfits : ∀ n ∈ ns, n < wordLimit := by decide +kernel
  have hrun : Run Digit "18446744073709551616-rc1 ".toList "18446744073709551616".toList
      "-rc1 ".toList := (run_iff isDigit_iff).2 (by decide +kernel)
  have hx : Stops x := .tooLarge hrun (by decide +kernel)
  have htrimmed : trimmed (String.ofList (joinWith ['.'] ws ++ x)) =
      "013.18446744073709551615.000.18446744073709551616-rc1" := by decide +kernel
  have hparse := (numeric_prefix_exact hws hne hfits hx).1
  rw [htrimmed] at hparse
  exact ⟨hws, hne, hfits, hx, hparse⟩

end Version

end Toolchain
