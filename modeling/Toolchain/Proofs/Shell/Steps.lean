import Toolchain.Proofs.Shell.Words

/-!
# Steps of the reader

What the steps of the reader answer and where they go on, in front of a word, of an operator, and
of a redirection. Each of them first skips the blanks that stand there, so the statements have
`blanks k` in front.

  * `Reads` — a step answers something and goes on at a later place.
  * `Settled` — a place where nothing is skipped.

## Main statements

  * `reads_wordAhead`, `reads_takeRaw`, `reads_reservedAhead` — the steps that look for words.
  * `reads_takeOperator` — the step that looks for operators.
  * `reads_takeRedirection` — the step that looks for redirections.
-/

namespace Toolchain.Shell

/-! ## Steps -/

/-- A step of the reader answers something and goes on at a later place. -/
def Reads {α : Type} (r : Reading α) (s : Source) (a : α) (t : Source) : Prop :=
  r.run s = .ok (a, t)

namespace Reads

variable {α β : Type} {s t u : Source} {a : α} {b : β}

theorem pure (a : α) (s : Source) : Reads (pure a) s a s := rfl

theorem get (s : Source) : Reads get s s s := rfl

theorem bind {r : Reading α} {k : α → Reading β} (h : Reads r s a t) (hk : Reads (k a) t b u) :
    Reads (r >>= k) s b u := by
  unfold Reads at *
  rw [StateT.run_bind, h]
  exact hk

end Reads

/-- Going on behind a text adds the line ends in it. -/
theorem reads_moveTo (w rest : List Char) (n : Nat) :
    Reads (moveTo rest) ⟨w ++ rest, n⟩ () ⟨rest, n + w.count '\n'⟩ := by
  have htake : (w ++ rest).take ((w ++ rest).length - rest.length) = w := by simp
  change Except.ok ((), (⟨rest, n + ((w ++ rest).take _).count '\n'⟩ : Source)) = _
  rw [htake]

/-! ## Blanks -/

/-- Blanks in front of something. -/
def blanks (k : Nat) : List Char := List.replicate k ' '

/-- Something in front of which nothing is skipped. -/
def Settled (rest : List Char) : Prop :=
  ∀ c, rest.head? = some c → c ≠ ' ' ∧ c ≠ '\t' ∧ c ≠ '#' ∧ c ≠ '\\'

theorem withoutBlanks_blanks {rest : List Char} (h : Settled rest) (k : Nat) :
    withoutBlanks (blanks k ++ rest) = rest := by
  induction k with
  | zero =>
    cases rest with
    | nil => rfl
    | cons c rest =>
      obtain ⟨hspace, htab, -, hslash⟩ := h c rfl
      change withoutBlanks (c :: rest) = c :: rest
      rw [withoutBlanks, if_neg (by simp [hspace, htab])]
      rintro d rfl
      exact absurd rfl hslash
  | succ k ih =>
    change withoutBlanks (' ' :: (blanks k ++ rest)) = rest
    rw [withoutBlanks, if_pos (Or.inl rfl), ih]
    exact fun _ h => nomatch h

theorem reads_skipBlanks {rest : List Char} (h : Settled rest) (k n : Nat) :
    Reads skipBlanks ⟨blanks k ++ rest, n⟩ () ⟨rest, n⟩ := by
  have hmove : Reads (moveTo rest) ⟨blanks k ++ rest, n⟩ () ⟨rest, n⟩ := by
    have hcount : (blanks k).count '\n' = 0 := by
      simp [blanks, List.count_replicate]
    simpa [hcount] using reads_moveTo (blanks k) rest n
  refine .bind (.get _) ?_
  simp only [withoutBlanks_blanks h]
  -- what is left begins with no comment
  split
  · exact absurd rfl (h '#' rfl).2.2.1
  · exact hmove

theorem reads_skipAll {rest : List Char} (h : Settled rest) (hline : rest.head? ≠ some '\n')
    (k n : Nat) : Reads skipAll ⟨blanks k ++ rest, n⟩ () ⟨rest, n⟩ := by
  refine .bind (.get _) (.bind (reads_skipBlanks h k n) (.bind (.get _) ?_))
  dsimp only
  split
  · exact absurd rfl hline
  · exact .pure _ _

/-- Nothing is skipped in front of a word. -/
theorem IsRaw.settled {w : List Char} (h : IsRaw w) (rest : List Char) : Settled (w ++ rest) := by
  obtain ⟨c, cs, rfl, hend, hhash, hslash⟩ := h.head
  rintro d ⟨⟩
  refine ⟨?_, ?_, hhash, hslash⟩
  · rintro rfl
    exact absurd hend (by decide)
  · rintro rfl
    exact absurd hend (by decide)

/-! ## Words -/

theorem reads_wordAhead {w rest : List Char} (hw : IsRaw w) (hrest : WordEnd rest) (k n : Nat) :
    Reads wordAhead ⟨blanks k ++ (w ++ rest), n⟩ (some (w, rest)) ⟨w ++ rest, n⟩ := by
  refine .bind (reads_skipBlanks (hw.settled rest) k n) (.bind (.get _) ?_)
  have htaken : rawWord (w ++ rest).length [] (w ++ rest) = .ok (w, rest) :=
    hw.taken [] hrest (by simp)
  obtain ⟨c, cs, rfl, -⟩ := hw.head
  simp only [htaken]
  exact .pure _ _

theorem reads_wordAhead_none {rest : List Char} (h : Settled rest) (hrest : WordEnd rest)
    (k n : Nat) : Reads wordAhead ⟨blanks k ++ rest, n⟩ none ⟨rest, n⟩ := by
  refine .bind (reads_skipBlanks h k n) (.bind (.get _) ?_)
  simp only [rawWord_end _ [] hrest]
  exact .pure _ _

theorem reads_takeRaw {w rest : List Char} (hw : IsRaw w) (hrest : WordEnd rest) (k n : Nat) :
    Reads takeRaw ⟨blanks k ++ (w ++ rest), n⟩ (some w) ⟨rest, n + w.count '\n'⟩ :=
  .bind (reads_wordAhead hw hrest k n) (.bind (reads_moveTo w rest n) (.pure _ _))

theorem reads_takeRaw_none {rest : List Char} (h : Settled rest) (hrest : WordEnd rest)
    (k n : Nat) : Reads takeRaw ⟨blanks k ++ rest, n⟩ none ⟨rest, n⟩ :=
  .bind (reads_wordAhead_none h hrest k n) (.pure _ _)

theorem reads_reservedAhead {w rest : List Char} (hw : IsRaw w)
    (hname : String.ofList w ∉ reservedWords) (hrest : WordEnd rest) (k n : Nat) :
    Reads reservedAhead ⟨blanks k ++ (w ++ rest), n⟩ none ⟨w ++ rest, n⟩ := by
  refine .bind (reads_wordAhead hw hrest k n) ?_
  simp only [if_neg hname]
  exact .pure _ _

/-! ## Operators -/

/-- An operator begins with the character that comes next. -/
theorem head_of_operatorAt? {rest : List Char} {op : String} (h : operatorAt? rest = some op) :
    ∃ c, rest.head? = some c ∧ op.toList.head? = some c := by
  have hne : op.toList ≠ [] :=
    (show ∀ op ∈ operators, op.toList ≠ [] by decide) op (List.mem_of_find?_eq_some h)
  have hprefix := List.find?_some (p := fun op : String => op.toList.isPrefixOf rest) h
  obtain ⟨cs, rfl⟩ := List.isPrefixOf_iff_prefix.1 hprefix
  obtain ⟨c, op, hop⟩ := List.exists_cons_of_ne_nil hne
  exact ⟨c, by rw [hop]; rfl, by rw [hop]; rfl⟩

theorem operatorAt?_eq_none {rest : List Char}
    (h : ∀ c, rest.head? = some c → endsWord c = false) : operatorAt? rest = none := by
  refine Option.eq_none_iff_forall_ne_some.2 fun op hop => ?_
  obtain ⟨c, hc, hhead⟩ := head_of_operatorAt? hop
  have hend : op.toList.head?.all endsWord = true :=
    (show ∀ op ∈ operators, op.toList.head?.all endsWord = true by decide) op
      (List.mem_of_find?_eq_some hop)
  rw [hhead] at hend
  exact absurd hend (by simp [h c hc])

/-- Behind an operator that comes next, the reader goes on in the same line. -/
theorem reads_takeOperator {op : String} {rest : List Char} (h : Settled (op.toList ++ rest))
    (hop : operatorAt? (op.toList ++ rest) = some op) (hline : '\n' ∉ op.toList) (k n : Nat) :
    Reads (takeOperator op) ⟨blanks k ++ (op.toList ++ rest), n⟩ true ⟨rest, n⟩ := by
  have hmove : Reads (moveTo rest) ⟨op.toList ++ rest, n⟩ () ⟨rest, n⟩ := by
    simpa [List.count_eq_zero.2 hline] using reads_moveTo op.toList rest n
  refine .bind (reads_skipBlanks h k n) (.bind (.get _) ?_)
  have hdrop : (op.toList ++ rest).drop op.length = rest := by
    rw [← String.length_toList, List.drop_left]
  simp only [if_pos hop, hdrop]
  exact .bind hmove (.pure _ _)

theorem reads_takeOperator_false {op : String} {rest : List Char} (h : Settled rest)
    (hop : operatorAt? rest ≠ some op) (k n : Nat) :
    Reads (takeOperator op) ⟨blanks k ++ rest, n⟩ false ⟨rest, n⟩ := by
  refine .bind (reads_skipBlanks h k n) (.bind (.get _) ?_)
  simp only [if_neg hop]
  exact .pure _ _

/-! ## Redirections -/

theorem redirectionKinds_find?_eq_none {rest : List Char}
    (h : ∀ c, rest.head? = some c → c ≠ '<' ∧ c ≠ '>') :
    redirectionKinds.find? (fun (op, _) => operatorAt? rest = some op) = none := by
  rw [List.find?_eq_none]
  rintro ⟨op, kind⟩ hmem hop
  obtain ⟨c, hc, hhead⟩ := head_of_operatorAt? (of_decide_eq_true hop)
  have hkind : op.toList.head?.all (· ∈ ['<', '>']) = true :=
    (show ∀ e ∈ redirectionKinds, e.1.toList.head?.all (· ∈ ['<', '>']) = true by decide) _ hmem
  rw [hhead] at hkind
  exact absurd hkind (by simp [h c hc])

/-- Digits name a descriptor only in front of a redirection. -/
theorem reads_takeRedirection_none {rest : List Char} (h : Settled rest)
    (hfront : ∀ c, (rest.dropWhile Char.isDigit).head? = some c → c ≠ '<' ∧ c ≠ '>') (k n : Nat) :
    Reads takeRedirection ⟨blanks k ++ rest, n⟩ none ⟨rest, n⟩ := by
  refine .bind (reads_skipBlanks h k n) (.bind (.get _) ?_)
  simp only [redirectionKinds_find?_eq_none hfront]
  exact .pure _ _

/-- The descriptor that is named by digits in front of a duplication. -/
def duplicated (digits : List Char) : Nat :=
  if digits = [] then 1 else ((String.ofList digits).toNat?).getD 1

theorem count_digits {digits : List Char} (hdigits : digits.all Char.isDigit = true) :
    digits.count '\n' = 0 :=
  List.count_eq_zero.2 fun h => absurd (List.all_eq_true.1 hdigits _ h) (by decide)

/-- A duplication begins with a digit, or with its operator. -/
theorem head_duplicate {digits : List Char} (hdigits : digits.all Char.isDigit = true)
    {rest : List Char} {c : Char} (hc : (digits ++ '>' :: rest).head? = some c) :
    c.isDigit = true ∨ c = '>' := by
  cases digits with
  | nil => exact Or.inr (Option.some.inj hc).symm
  | cons d ds =>
    cases hc
    exact Or.inl (List.all_eq_true.1 hdigits _ List.mem_cons_self)

theorem settled_duplicate {digits : List Char} (hdigits : digits.all Char.isDigit = true)
    (rest : List Char) : Settled (digits ++ '>' :: rest) := by
  intro c hc
  obtain hdigit | rfl := head_duplicate hdigits hc
  · refine ⟨?_, ?_, ?_, ?_⟩ <;> (rintro rfl; exact absurd hdigit (by decide))
  · decide

theorem reads_takeRedirection {digits target rest : List Char}
    (hdigits : digits.all Char.isDigit = true) (htarget : IsRaw target) (hrest : WordEnd rest)
    (k n : Nat) :
    Reads takeRedirection ⟨blanks k ++ (digits ++ '>' :: '&' :: (target ++ rest)), n⟩
      (some ⟨duplicated digits, .duplicate, partsOf false target⟩)
      ⟨rest, n + target.count '\n'⟩ := by
  have htake : (digits ++ '>' :: '&' :: (target ++ rest)).takeWhile Char.isDigit = digits := by
    rw [List.takeWhile_append_of_pos (List.all_eq_true.1 hdigits)]
    simp
  have hdrop : (digits ++ '>' :: '&' :: (target ++ rest)).dropWhile Char.isDigit =
      '>' :: '&' :: (target ++ rest) := List.dropWhile_append_of_pos (List.all_eq_true.1 hdigits)
  -- `>&` stands in front of `>`, so it is found although it begins like the shorter one
  have hfind : redirectionKinds.find?
      (fun (op, _) => operatorAt? ('>' :: '&' :: (target ++ rest)) = some op) =
      some (">&", 1, .duplicate) := rfl
  have hline : (digits ++ ['>', '&']).count '\n' = 0 := by
    simp [count_digits hdigits]
  have hmove : Reads (moveTo (target ++ rest))
      ⟨digits ++ '>' :: '&' :: (target ++ rest), n⟩ () ⟨target ++ rest, n⟩ := by
    simpa [hline] using reads_moveTo (digits ++ ['>', '&']) (target ++ rest) n
  refine .bind (reads_skipBlanks (settled_duplicate hdigits _) k n) (.bind (.get _) ?_)
  simp only [htake, hdrop, hfind]
  exact .bind hmove (.bind (reads_takeRaw htarget hrest 0 n) (.pure _ _))

end Toolchain.Shell
