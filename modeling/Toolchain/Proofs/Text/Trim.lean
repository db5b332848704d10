import Mathlib.Data.List.DropRight
import Toolchain.Text.Split

/-!
# Trimmed text

Trimming takes a text to a form that it leaves alone afterwards: no character at either end
is of those that are dropped (`Trimmed`).

## Main statements

  * `trimmed_trimBoth`, `trimBoth_eq_self` — the results of trimming are the trimmed texts.
  * `trim_eq_self_of_not_blank` — a text without blanks is trimmed.
  * `trimBoth_eq_self_iff` — trimming leaves exactly the trimmed texts alone.
  * `trimBoth_padded`, `trim_append_blanks` — blanks around a text make no difference.
  * `cutAt_append` — a text is cut at the mark that was put into it.
  * `occursIn_iff` — what is found in a text stands in it.
-/

namespace Toolchain.Text

/-! ## Both ends -/

/-- Neither the first nor the last character satisfies `p`. -/
structure Trimmed (p : Char → Bool) (s : List Char) : Prop where
  head : ∀ c, s.head? = some c → p c = false
  last : ∀ c, s.getLast? = some c → p c = false

theorem dropWhile_eq_self_of_head {p : Char → Bool} {s : List Char}
    (h : ∀ c, s.head? = some c → p c = false) : s.dropWhile p = s := by
  cases s with
  | nil => rfl
  | cons c cs => exact List.dropWhile_cons_of_neg (by simp [h c rfl])

theorem head_dropWhile {p : Char → Bool} {s : List Char} :
    ∀ c, (s.dropWhile p).head? = some c → p c = false := by
  intro c hc
  have h := List.head?_dropWhile_not p s
  rw [hc] at h
  simpa using h

/-- What trimming gives is trimmed. -/
theorem trimmed_trimBoth (p : Char → Bool) (s : List Char) : Trimmed p (trimBoth p s) where
  head c hc := by
    -- dropping at the end leaves the beginning of what was dropped at the front
    obtain ⟨rest, hrest⟩ := List.rdropWhile_prefix p (l := s.dropWhile p)
    refine head_dropWhile c (s := s) ?_
    rw [← hrest]
    have hc' : (List.rdropWhile p (s.dropWhile p)).head? = some c := hc
    rw [List.head?_append, hc']
    rfl
  last c hc := by
    rw [trimBoth, List.getLast?_reverse] at hc
    exact head_dropWhile c hc

/-- Trimming leaves a trimmed text alone. -/
theorem trimBoth_eq_self {p : Char → Bool} {s : List Char} (h : Trimmed p s) :
    trimBoth p s = s := by
  have hlast : s.reverse.dropWhile p = s.reverse := by
    apply dropWhile_eq_self_of_head
    intro c hc
    rw [List.head?_reverse] at hc
    exact h.last c hc
  rw [trimBoth, dropWhile_eq_self_of_head h.head, hlast, List.reverse_reverse]

/-- Trimming leaves exactly the trimmed texts alone. -/
theorem trimBoth_eq_self_iff {p : Char → Bool} {s : List Char} :
    trimBoth p s = s ↔ Trimmed p s := by
  constructor
  · intro h
    rw [← h]
    exact trimmed_trimBoth p s
  · exact trimBoth_eq_self

instance (p : Char → Bool) (s : List Char) : Decidable (Trimmed p s) :=
  decidable_of_iff _ trimBoth_eq_self_iff

@[simp] theorem trim_trim (s : List Char) : trim (trim s) = trim s :=
  trimBoth_eq_self (trimmed_trimBoth isBlank s)

/-- A text without the characters that are dropped is not changed by trimming. -/
theorem trimBoth_eq_self_of_forall {p : Char → Bool} {s : List Char}
    (h : ∀ c ∈ s, p c = false) : trimBoth p s = s :=
  trimBoth_eq_self
    { head := fun c hc => h c (List.mem_of_head? hc)
      last := fun c hc => h c (List.mem_of_getLast? hc) }

/-- A text without a mark is not changed by dropping it at the ends. -/
theorem trimBoth_of_notMem {d : Char} {s : List Char} (h : d ∉ s) : trimBoth (· == d) s = s := by
  apply trimBoth_eq_self_of_forall
  intro c hc
  rw [beq_eq_false_iff_ne]
  rintro rfl
  exact h hc

/-- A text without blanks is not changed by trimming. -/
theorem trim_eq_self_of_not_blank {s : List Char} (h : ∀ c ∈ s, isBlank c = false) :
    trim s = s :=
  trimBoth_eq_self_of_forall h

theorem mem_of_mem_trimBoth {p : Char → Bool} {s : List Char} {c : Char}
    (h : c ∈ trimBoth p s) : c ∈ s := by
  unfold trimBoth at h
  rw [List.mem_reverse] at h
  have h' := (List.dropWhile_sublist p).mem h
  rw [List.mem_reverse] at h'
  exact (List.dropWhile_sublist p).mem h'

theorem trimmed_nil (p : Char → Bool) : Trimmed p [] where
  head _ hc := by cases hc
  last _ hc := by cases hc

theorem Trimmed.append {p : Char → Bool} {a b : List Char} (ha : Trimmed p a)
    (hb : Trimmed p b) : Trimmed p (a ++ b) where
  head c hc := by
    rw [List.head?_append, Option.or_eq_some_iff] at hc
    rcases hc with hc | ⟨-, hc⟩
    · exact ha.head c hc
    · exact hb.head c hc
  last c hc := by
    rw [List.getLast?_append, Option.or_eq_some_iff] at hc
    rcases hc with hc | ⟨-, hc⟩
    · exact hb.last c hc
    · exact ha.last c hc

/-- Trimming leaves nothing exactly of a text in which every character is dropped. -/
theorem trimBoth_eq_nil_iff {p : Char → Bool} {s : List Char} :
    trimBoth p s = [] ↔ ∀ c ∈ s, p c = true := by
  rw [← List.dropWhile_eq_nil_iff, trimBoth, List.reverse_eq_nil_iff, List.dropWhile_eq_nil_iff]
  constructor
  · intro h
    cases hdrop : s.dropWhile p with
    | nil => rfl
    | cons c rest =>
      -- what is left begins with a character that is not dropped
      have hc : p c = false := head_dropWhile (s := s) c (by rw [hdrop]; rfl)
      rw [h c (by rw [hdrop]; exact List.mem_reverse.2 List.mem_cons_self)] at hc
      cases hc
  · intro h
    rw [h]
    exact fun _ hc => by cases hc

/-! ## Blanks around a text -/

/-- Trimming takes a trimmed text out of the blanks around it. -/
theorem trimBoth_padded {p : Char → Bool} {a t b : List Char} (ha : ∀ c ∈ a, p c = true)
    (ht : Trimmed p t) (hb : ∀ c ∈ b, p c = true) : trimBoth p (a ++ (t ++ b)) = t := by
  cases t with
  | nil =>
    rw [trimBoth_eq_nil_iff]
    intro c hc
    rcases List.mem_append.1 hc with hc | hc
    · exact ha c hc
    · exact hb c hc
  | cons c cs =>
    have hfront : (a ++ (c :: cs ++ b)).dropWhile p = c :: cs ++ b := by
      rw [List.dropWhile_append_of_pos ha]
      exact dropWhile_eq_self_of_head ht.head
    have hback : (b.reverse ++ (c :: cs).reverse).dropWhile p = (c :: cs).reverse := by
      rw [List.dropWhile_append_of_pos fun d hd => hb d (List.mem_reverse.1 hd)]
      apply dropWhile_eq_self_of_head
      intro d hd
      rw [List.head?_reverse] at hd
      exact ht.last d hd
    rw [trimBoth, hfront, List.reverse_append, hback, List.reverse_reverse]

/-- A text is a part that does not end with a blank, and the blanks after it. -/
theorem exists_trimmed_end (p : Char → Bool) (s : List Char) :
    ∃ core tail, s = core ++ tail ∧ (∀ c ∈ tail, p c = true) ∧
      ∀ c, core.getLast? = some c → p c = false := by
  refine ⟨s.rdropWhile p, s.rtakeWhile p, ?_, ?_, ?_⟩
  · unfold List.rdropWhile List.rtakeWhile
    rw [← List.reverse_append, List.takeWhile_append_dropWhile, List.reverse_reverse]
  · exact fun c hc => List.mem_rtakeWhile_imp hc
  · intro c hc
    rw [List.rdropWhile, List.getLast?_reverse] at hc
    exact head_dropWhile c hc

/-- Blanks at the end make no difference. -/
theorem trim_append_blanks {b : List Char} (hb : ∀ c ∈ b, isBlank c = true) (s : List Char) :
    trim (s ++ b) = trim s := by
  -- what is left of `s` at its end is not blank, unless nothing is left
  obtain ⟨core, tail, hcore, htail, hlast⟩ := exists_trimmed_end isBlank (s.dropWhile isBlank)
  have hs : s = s.takeWhile isBlank ++ (core ++ tail) := by
    rw [← hcore, List.takeWhile_append_dropWhile]
  have hfront : ∀ c ∈ s.takeWhile isBlank, isBlank c = true :=
    fun c hc => List.mem_takeWhile_imp hc
  have htrimmed : Trimmed isBlank core := by
    refine ⟨fun c hc => ?_, hlast⟩
    have hhead : (core ++ tail).head? = some c := by
      rw [List.head?_append, hc]
      rfl
    rw [← hcore] at hhead
    exact head_dropWhile c hhead
  have hboth : ∀ c ∈ tail ++ b, isBlank c = true := by
    intro c hc
    rcases List.mem_append.1 hc with hc | hc
    · exact htail c hc
    · exact hb c hc
  calc trim (s ++ b) = trim (s.takeWhile isBlank ++ (core ++ (tail ++ b))) := by
        conv_lhs => rw [hs]
        simp
    _ = core := trimBoth_padded hfront htrimmed hboth
    _ = trim (s.takeWhile isBlank ++ (core ++ tail)) :=
        (trimBoth_padded hfront htrimmed htail).symm
    _ = trim s := by rw [← hs]

/-- The carriage return at the end of a line makes no difference. -/
theorem trim_dropReturn (s : List Char) : trim (dropReturn s) = trim s := by
  unfold dropReturn
  split
  · next hlast =>
    have hreturn : ∀ c ∈ ['\r'], isBlank c = true := List.forall_mem_singleton.2 rfl
    have hs : s.dropLast ++ ['\r'] = s := List.dropLast_append_getLast? '\r' hlast
    rw [← trim_append_blanks hreturn s.dropLast, hs]
  · rfl

/-! ## Cutting -/

/-- A text is cut at a mark that does not occur before. -/
theorem cutAt_append {d : Char} {a : List Char} (h : d ∉ a) (b : List Char) :
    cutAt d (a ++ d :: b) = some (a, b) := by
  induction a with
  | nil => simp [cutAt]
  | cons c cs ih =>
    rw [List.mem_cons, not_or] at h
    rw [List.cons_append, cutAt, if_neg (Ne.symm h.1), ih h.2]
    rfl

theorem dropStart?_isSome {pat s : List Char} : (dropStart? pat s).isSome ↔ pat <+: s := by
  rw [Option.isSome_iff_exists]
  exact ⟨fun ⟨r, hr⟩ => ⟨r, (dropStart?_eq_some.1 hr).symm⟩,
    fun ⟨r, hr⟩ => ⟨r, dropStart?_eq_some.2 hr.symm⟩⟩

/-- What is found in a text stands in it. -/
theorem occursIn_iff {pat s : List Char} : occursIn pat s = true ↔ pat <:+: s := by
  unfold occursIn
  induction s with
  | nil =>
    unfold cutAround
    split <;> simp_all
  | cons c cs ih =>
    unfold cutAround
    rw [List.infix_cons_iff, ← dropStart?_isSome]
    split
    next rest h => simp [h]
    next h => rw [Option.isSome_map, ih, h]; simp

end Toolchain.Text

namespace Toolchain

@[simp] theorem trimmed_trimmed (s : String) : trimmed (trimmed s) = trimmed s := by
  simp [trimmed]

/-- Trimming leaves exactly the texts alone that have no blank at either end. -/
theorem trimmed_eq_self_iff {s : String} :
    trimmed s = s ↔ Text.Trimmed Text.isBlank s.toList := by
  have hlist : trimmed s = s ↔ Text.trim s.toList = s.toList := by
    rw [← String.toList_inj, trimmed, String.toList_ofList]
  rw [hlist]
  exact Text.trimBoth_eq_self_iff

end Toolchain
