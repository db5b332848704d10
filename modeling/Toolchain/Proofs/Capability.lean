import Toolchain.Capability
import Toolchain.Proofs.Version.Order
import Toolchain.Proofs.Version.Reading

/-!
# Looking up a flag

The gates of the table are listed in strictly increasing order, so looking from the back finds
the highest one that a version reaches, and a version that misses the first one misses all.
Later versions reach more gates, never fewer. The reasons that are given where there is no
flag are exact: the version that one requires is the first one with a flag.

  * `Increasing` — gates in strictly increasing order.
  * `Highest` — the highest gate that a version reaches.
  * `Family.Supports` — a version has a flag for a property.

## Main statements

  * `increasing_gates` — the whole table is increasing.
  * `reachedGate?_eq_some` — looking from the back finds the highest gate that is reached.
  * `supports_iff_first` — a version has a flag if it reaches the first gate.
  * `flag_lookup` — what the answer to a question for a flag means.
-/

namespace Toolchain

variable {gates : List Gate} {v w : Version}

/-! ## Gates -/

/-- Gates in strictly increasing order. -/
def Increasing (gates : List Gate) : Prop :=
  gates.Pairwise fun g h => compareNumbers g.since h.since = .lt

instance : Decidable (Increasing gates) := inferInstanceAs (Decidable (List.Pairwise _ gates))

/-- The highest gate that a version reaches. -/
structure Highest (gates : List Gate) (v : Version) (g : Gate) : Prop where
  listed : g ∈ gates
  reached : v.atLeast g.since = true
  highest : ∀ h ∈ gates, v.atLeast h.since = true →
    (compareNumbers h.since g.since).isLE = true

/-- Of increasing gates no two are at the same place. -/
theorem Increasing.eq_of_isLE (hgates : Increasing gates) {g h : Gate} (hg : g ∈ gates)
    (hh : h ∈ gates) (hle : (compareNumbers g.since h.since).isLE = true)
    (hge : (compareNumbers h.since g.since).isLE = true) : g = h := by
  have hgt : ∀ {x y : Gate}, compareNumbers x.since y.since = .lt →
      (compareNumbers y.since x.since).isLE = false := by
    intro x y hxy
    have hswap : compareNumbers y.since x.since = (compareNumbers x.since y.since).swap :=
      Std.OrientedCmp.eq_swap
    rw [hswap, hxy]
    rfl
  -- a gate and a later one are never in both orders
  induction gates with
  | nil => cases hg
  | cons first rest ih =>
    obtain ⟨hfirst, hrest⟩ := List.pairwise_cons.1 hgates
    rcases List.mem_cons.1 hg with rfl | hg'
    · rcases List.mem_cons.1 hh with rfl | hh'
      · rfl
      · rw [hgt (hfirst h hh')] at hge
        cases hge
    · rcases List.mem_cons.1 hh with rfl | hh'
      · rw [hgt (hfirst g hg')] at hle
        cases hle
      · exact ih hrest hg' hh'

/-- A version that reaches no gate. -/
theorem reachedGate?_eq_none :
    reachedGate? gates v = none ↔ ∀ g ∈ gates, v.atLeast g.since = false := by
  unfold reachedGate?
  rw [List.find?_eq_none]
  constructor
  · intro h g hg
    exact Bool.eq_false_iff.2 (h g (List.mem_reverse.2 hg))
  · intro h g hg
    exact Bool.eq_false_iff.1 (h g (List.mem_reverse.1 hg))

/-- What is found from the back is the highest gate that is reached. -/
theorem highest_of_reachedGate? (hgates : Increasing gates) {g : Gate}
    (h : reachedGate? gates v = some g) : Highest gates v g := by
  obtain ⟨hreached, later, earlier, hsplit, hlater⟩ := List.find?_eq_some_iff_append.1 h
  have hgates' : gates = earlier.reverse ++ g :: later.reverse := by
    rw [← List.reverse_reverse gates, hsplit]
    simp
  subst hgates'
  refine ⟨by simp, hreached, ?_⟩
  intro x hx hxreached
  rcases List.mem_append.1 hx with hearlier | hx
  · have hlt : compareNumbers x.since g.since = .lt :=
      (List.pairwise_append.1 hgates).2.2 x hearlier g List.mem_cons_self
    rw [hlt]
    rfl
  · rcases List.mem_cons.1 hx with rfl | hx
    · rw [compareNumbers_self]
      rfl
    · -- a later gate would have been found first
      have hmissed := hlater x (List.mem_reverse.1 hx)
      rw [hxreached] at hmissed
      cases hmissed

/-- Looking from the back finds the highest gate that is reached. -/
theorem reachedGate?_eq_some (hgates : Increasing gates) {g : Gate} :
    reachedGate? gates v = some g ↔ Highest gates v g := by
  constructor
  · exact highest_of_reachedGate? hgates
  · intro hg
    cases hfound : reachedGate? gates v with
    | none =>
      have hmissed := reachedGate?_eq_none.1 hfound g hg.listed
      rw [hg.reached] at hmissed
      cases hmissed
    | some h =>
      have hh := highest_of_reachedGate? hgates hfound
      have heq := hgates.eq_of_isLE hg.listed hh.listed (hh.highest g hg.listed hg.reached)
        (hg.highest h hh.listed hh.reached)
      rw [heq]

/-- The highest gate of a later version is not lower. -/
theorem Highest.isLE (hle : v.le w = true) {g h : Gate} (hg : Highest gates v g)
    (hh : Highest gates w h) : (compareNumbers g.since h.since).isLE = true :=
  hh.highest g hg.listed (Version.atLeast_of_le hle hg.reached)

/-! ## The table -/

namespace Family

variable {f : Family} {p : Property}

/-- The gates of the table are in strictly increasing order. -/
theorem increasing_gates (f : Family) (p : Property) : Increasing (f.gates p) := by
  have hall : ∀ f ∈ all, ∀ p ∈ Property.all, Increasing (f.gates p) := by decide
  exact hall f (mem_all f) p (Property.mem_all p)

/-- The numbers of the table fit into the components of a version. -/
theorem lt_wordLimit {g : Gate} (hg : g ∈ f.gates p) : ∀ n ∈ g.since, n < Text.wordLimit := by
  have hall : ∀ f ∈ all, ∀ p ∈ Property.all, ∀ g ∈ f.gates p, ∀ n ∈ g.since,
      n < Text.wordLimit := by decide +kernel
  exact hall f (mem_all f) p (Property.mem_all p) g hg

/-- A version has a flag for a property. -/
def Supports (f : Family) (p : Property) (v : Version) : Prop :=
  ∃ flag, f.flag p v = .supported flag

/-- A flag is that of the highest gate that the version reaches. -/
theorem flag_eq_supported {flag : String} :
    f.flag p v = .supported flag ↔ ∃ g, Highest (f.gates p) v g ∧ g.flag = flag := by
  unfold Family.flag
  split
  · next g hg =>
    have hhighest := (reachedGate?_eq_some (increasing_gates f p)).1 hg
    constructor
    · intro h
      exact ⟨g, hhighest, Support.supported.inj h⟩
    · intro h
      obtain ⟨g', hg', rfl⟩ := h
      rw [← reachedGate?_eq_some (increasing_gates f p), hg] at hg'
      rw [Option.some.inj hg']
  · next hnone =>
    constructor
    · intro h
      split at h
      · cases h
      · cases h
    · intro h
      obtain ⟨g, hg, -⟩ := h
      rw [← reachedGate?_eq_some (increasing_gates f p), hnone] at hg
      cases hg

/-- Where there is no flag the version reaches no gate, and the reason is the first gate, if
there is one. -/
theorem flag_eq_unsupported {why : Shortfall} :
    f.flag p v = .unsupported why ↔
      (∀ g ∈ f.gates p, v.atLeast g.since = false) ∧
        why = match f.gates p with
          | [] => .absent f
          | first :: _ => .tooOld f first.since := by
  rw [← reachedGate?_eq_none]
  unfold Family.flag
  cases hfound : reachedGate? (f.gates p) v with
  | some g => simp
  | none =>
    cases f.gates p with
    | nil => simp [eq_comm]
    | cons first rest => simp [eq_comm]

theorem exists_unsupported_iff :
    (∃ why, f.flag p v = .unsupported why) ↔ ∀ g ∈ f.gates p, v.atLeast g.since = false := by
  constructor
  · intro h
    obtain ⟨why, hwhy⟩ := h
    exact (flag_eq_unsupported.1 hwhy).1
  · intro h
    exact ⟨_, flag_eq_unsupported.2 ⟨h, rfl⟩⟩

/-- A version has a flag if it reaches some gate. -/
theorem supports_iff : f.Supports p v ↔ ∃ g ∈ f.gates p, v.atLeast g.since = true := by
  constructor
  · intro h
    obtain ⟨flag, hflag⟩ := h
    obtain ⟨g, hg, -⟩ := flag_eq_supported.1 hflag
    exact ⟨g, hg.listed, hg.reached⟩
  · intro h
    obtain ⟨g, hg, hreached⟩ := h
    cases hanswer : f.flag p v with
    | supported flag => exact ⟨flag, hanswer⟩
    | unsupported why =>
      have hmissed := (flag_eq_unsupported.1 hanswer).1 g hg
      rw [hreached] at hmissed
      cases hmissed

/-- A version has a flag if it reaches the first gate. -/
theorem supports_iff_first {first : Gate} {rest : List Gate} (h : f.gates p = first :: rest) :
    f.Supports p v ↔ v.atLeast first.since = true := by
  have hgates := increasing_gates f p
  rw [h] at hgates
  obtain ⟨hfirst, -⟩ := List.pairwise_cons.1 hgates
  rw [supports_iff, h]
  constructor
  · intro hreached
    obtain ⟨g, hg, hv⟩ := hreached
    rcases List.mem_cons.1 hg with rfl | hg
    · exact hv
    · -- the first gate is below every later one
      apply Version.atLeast_of_isLE _ hv
      rw [hfirst g hg]
      rfl
  · intro hv
    exact ⟨first, List.mem_cons_self, hv⟩

/-- Later versions have a flag where earlier ones have one. -/
theorem Supports.of_le (hle : v.le w = true) (h : f.Supports p v) : f.Supports p w := by
  obtain ⟨g, hg, hreached⟩ := supports_iff.1 h
  exact supports_iff.2 ⟨g, hg, Version.atLeast_of_le hle hreached⟩

/-! ## Reasons -/

/-- The two kinds of reasons begin differently. -/
theorem not_available_ne_requires (a b : String) :
    "not available for " ++ a ≠ "requires " ++ b := by
  intro h
  have hhead := congrArg (fun s => s.toList.head?) h
  have hnot : "not available for ".toList.head? = some 'n' := rfl
  have hrequires : "requires ".toList.head? = some 'r' := rfl
  simp only [String.toList_append, List.head?_append, hnot, hrequires] at hhead
  cases hhead

/-- The reason is that there are no gates, or it requires the first one. -/
theorem reason_cases {why : Shortfall} (h : f.flag p v = .unsupported why) :
    (f.gates p = [] ∧ why.reason = "not available for " ++ f.name) ∨
      ∃ first rest, f.gates p = first :: rest ∧
        why.reason = "requires " ++ f.name ++ " " ++ dottedOf first.since ++ " or newer" := by
  obtain ⟨-, hwhy⟩ := flag_eq_unsupported.1 h
  subst hwhy
  cases f.gates p with
  | nil => exact .inl ⟨rfl, rfl⟩
  | cons first rest => exact .inr ⟨first, rest, rfl, rfl⟩

/-- Where the reason requires a version, it is that of the first gate. -/
theorem exists_first_of_requires {why : Shortfall} {N : String}
    (h : f.flag p v = .unsupported why)
    (hreason : why.reason = "requires " ++ f.name ++ " " ++ N ++ " or newer") :
    ∃ first rest, f.gates p = first :: rest ∧ N = dottedOf first.since := by
  rcases reason_cases h with ⟨-, habsent⟩ | ⟨first, rest, hgates, hfirst⟩
  · rw [hreason, String.append_assoc, String.append_assoc, String.append_assoc] at habsent
    exact absurd habsent.symm (not_available_ne_requires _ _)
  · rw [hreason, String.append_left_inj, String.append_right_inj] at hfirst
    exact ⟨first, rest, hgates, hfirst⟩

/-- The version that a reason requires is one that can be read, and the versions that have a
flag are those that reach it. -/
theorem required_version {why : Shortfall} {N : String} (h : f.flag p v = .unsupported why)
    (hreason : why.reason = "requires " ++ f.name ++ " " ++ N ++ " or newer") :
    ∃ n, Version.parse? N = some n ∧ (∀ w, f.Supports p w ↔ w.atLeast n.numbers = true) ∧
      v.atLeast n.numbers = false := by
  obtain ⟨first, rest, hgates, rfl⟩ := exists_first_of_requires h hreason
  have hfirst : first ∈ f.gates p := by
    rw [hgates]
    exact List.mem_cons_self
  have hmissed : v.atLeast first.since = false := (flag_eq_unsupported.1 h).1 first hfirst
  -- every version reaches a gate without numbers
  have hne : first.since ≠ [] := Version.ne_nil_of_atLeast_eq_false hmissed
  exact ⟨_, Version.parse?_dottedOf hne (lt_wordLimit hfirst), fun w => supports_iff_first hgates,
    hmissed⟩

/-- A property is not available exactly if no version has a flag for it. -/
theorem not_available_iff :
    (∃ why, f.flag p v = .unsupported why ∧ why.reason = "not available for " ++ f.name) ↔
      ∀ text w, Version.parse? text = some w → ¬ f.Supports p w := by
  constructor
  · intro h
    obtain ⟨why, hwhy, hreason⟩ := h
    rcases reason_cases hwhy with ⟨hgates, -⟩ | ⟨first, rest, -, hfirst⟩
    · intro _ w _ hsupports
      obtain ⟨g, hg, -⟩ := supports_iff.1 hsupports
      rw [hgates] at hg
      cases hg
    · rw [hreason, String.append_assoc, String.append_assoc, String.append_assoc] at hfirst
      exact absurd hfirst (not_available_ne_requires _ _)
  · intro hnone
    cases hgates : f.gates p with
    | nil =>
      refine ⟨.absent f, flag_eq_unsupported.2 ⟨?_, ?_⟩, rfl⟩
      · rw [hgates]
        intro g hg
        cases hg
      · rw [hgates]
    | cons first rest =>
      -- the first gate has a version that reaches it
      have hfirst : first ∈ f.gates p := by
        rw [hgates]
        exact List.mem_cons_self
      obtain ⟨text, w, hparse, hreached⟩ := Version.exists_parse?_atLeast (lt_wordLimit hfirst)
      exact absurd ((supports_iff_first hgates).2 hreached) (hnone text w hparse)

/-- The answer to a question for a flag. It is the flag of the highest gate that the version
reaches, and a reason if it reaches none. Later versions keep a flag, and do not fall back to
a lower gate. A reason that requires a version names one that can be read: the versions with
a flag are those that reach its numbers, and the one that was asked about does not. Otherwise
the reason is that the property is not available, and this is so exactly if there is no
version with a flag. -/
theorem flag_lookup (f : Family) (p : Property) (v : Version) :
    (∀ flag, f.flag p v = .supported flag ↔
      ∃ g, Highest (f.gates p) v g ∧ g.flag = flag) ∧
    ((∃ why, f.flag p v = .unsupported why) ↔
      ∀ g ∈ f.gates p, v.atLeast g.since = false) ∧
    (∀ w, v.le w = true →
      (f.Supports p v → f.Supports p w) ∧
      ∀ g h, Highest (f.gates p) v g → Highest (f.gates p) w h →
        (compareNumbers g.since h.since).isLE = true) ∧
    (∀ why, f.flag p v = .unsupported why →
      ((∃ N, why.reason = "requires " ++ f.name ++ " " ++ N ++ " or newer") ∨
        why.reason = "not available for " ++ f.name) ∧
      ∀ N, why.reason = "requires " ++ f.name ++ " " ++ N ++ " or newer" →
        ∃ n, Version.parse? N = some n ∧ (∀ w, f.Supports p w ↔ w.atLeast n.numbers = true) ∧
          v.atLeast n.numbers = false) ∧
    ((∃ why, f.flag p v = .unsupported why ∧ why.reason = "not available for " ++ f.name) ↔
      ∀ text w, Version.parse? text = some w → ¬ f.Supports p w) := by
  refine ⟨fun flag => flag_eq_supported, exists_unsupported_iff, ?_, ?_, not_available_iff⟩
  · intro w hle
    exact ⟨Supports.of_le hle, fun g h hg hh => hg.isLE hle hh⟩
  · intro why hwhy
    refine ⟨?_, fun N hreason => required_version hwhy hreason⟩
    rcases reason_cases hwhy with ⟨-, habsent⟩ | ⟨first, rest, -, hfirst⟩
    · exact .inr habsent
    · exact .inl ⟨_, hfirst⟩

example : intel.flag .cxx14 ⟨"15.0.1", [15, 0, 1]⟩ = .supported "-std=c++1y" ∧
    intel.flag .cxx14 ⟨"14.9", [14, 9]⟩ = .unsupported (.tooOld .intel [15]) := by decide

end Family

end Toolchain
