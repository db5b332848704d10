import Toolchain.Proofs.Shell.Quoting
import Toolchain.Proofs.Text.Runs

/-!
# Words of a script

How the shell takes words from a script, and the parts of which they are made. A plain word holds
no character with a meaning; a quoted text is quoted parts with escaped quotes between them. Both
are taken as they are written, wherever they stand before the end of a word.

  * `IsRaw` — a text that is taken as one word.

## Main statements

  * `isRaw_plain`, `isRaw_quoteWord` — plain words and quoted texts are taken as one word.
  * `partsOf_plain` — a plain word is one part.
  * `partsOf_quoteWord` — the parts of a quoted text are quoted ones that make it up.
-/

namespace Toolchain.Shell

open ModuleScript

/-! ## Taking words -/

/-- At the end of the script, or before a character that ends a word. -/
def WordEnd (rest : List Char) : Prop := ∀ c, rest.head? = some c → endsWord c = true

/-- A character without a meaning. -/
def isPlainChar (c : Char) : Bool :=
  !endsWord c && !(c ∈ ['\'', '"', backquote, '$', '\\', '#', '~', '*', '?', '[', '='])

theorem endsWord_of_plain {c : Char} (hc : isPlainChar c = true) : endsWord c = false := by
  simp only [isPlainChar, Bool.and_eq_true, Bool.not_eq_true'] at hc
  exact hc.1

/-- A plain character is none of those with a meaning. -/
theorem ne_of_plain {c d : Char} (hc : isPlainChar c = true) (hd : isPlainChar d = false) :
    c ≠ d := by
  rintro rfl
  rw [hc] at hd
  cases hd

/-- A text that is taken as one word: it does not begin like a blank, a comment or the end of a
word, also not behind the digits that may name a descriptor; and all of it is taken, but nothing
that follows. -/
structure IsRaw (w : List Char) : Prop where
  head : ∃ c cs, w = c :: cs ∧ endsWord c = false ∧ c ≠ '#' ∧ c ≠ '\\'
  front : ∀ c, (w.dropWhile Char.isDigit).head? = some c → endsWord c = false
  taken : ∀ {fuel : Nat} (done : List Char) {rest : List Char}, WordEnd rest → w.length ≤ fuel →
    rawWord fuel done (w ++ rest) = .ok (done.reverse ++ w, rest)

theorem rawWord_end (fuel : Nat) (done : List Char) {rest : List Char} (h : WordEnd rest) :
    rawWord fuel done rest = .ok (done.reverse, rest) := by
  cases fuel with
  | zero => rw [rawWord]
  | succ fuel =>
    cases rest with
    | nil => rw [rawWord]; exact fun h => nomatch h
    | cons c rest =>
      have hc : endsWord c = true := h c rfl
      rw [rawWord, if_pos hc]
      rintro d ds rfl
      exact absurd hc (by decide)

theorem rawWord_plain {c : Char} (hc : isPlainChar c = true) (fuel : Nat)
    (done rest : List Char) :
    rawWord (fuel + 1) done (c :: rest) = rawWord fuel (c :: done) rest := by
  have hend : ¬(endsWord c = true) := by simp [endsWord_of_plain hc]
  have hquote : ¬(c = '\'' ∨ c = '"' ∨ c = backquote) := by
    simp only [not_or]
    exact ⟨ne_of_plain hc rfl, ne_of_plain hc rfl, ne_of_plain hc rfl⟩
  have hdollar : c ≠ '$' := ne_of_plain hc rfl
  rw [rawWord, if_neg hend, if_neg hquote]
  · split
    · exact absurd rfl hdollar
    · exact absurd rfl hdollar
    · rfl
  · rintro d ds rfl
    exact absurd rfl (ne_of_plain hc rfl)

/-- Single quotes are passed over up to the closing one. -/
theorem scan_single {w : List Char} (hw : '\'' ∉ w) (done rest : List Char) :
    scan ['\''] done (w ++ '\'' :: rest) = some ('\'' :: (w.reverse ++ done), rest) := by
  induction w generalizing done with
  | nil => simp [scan]
  | cons c w ih =>
    rw [List.mem_cons, not_or] at hw
    rw [List.cons_append, scan, if_neg (Ne.symm hw.1), ih hw.2, List.reverse_cons,
      List.append_assoc, List.singleton_append]

theorem rawWord_single {w : List Char} (hw : '\'' ∉ w) (fuel : Nat) (done rest : List Char) :
    rawWord (fuel + 1) done ('\'' :: (w ++ '\'' :: rest)) =
      rawWord fuel ('\'' :: (w.reverse ++ '\'' :: done)) rest := by
  rw [rawWord, if_neg (by decide), if_pos (by simp)]
  · simp only [scan_single hw, List.append_nil, List.cons_append]
  · exact fun c cs h => absurd h (by decide)

theorem rawWord_escape (c : Char) (fuel : Nat) (done rest : List Char) :
    rawWord (fuel + 1) done ('\\' :: c :: rest) = rawWord fuel (c :: '\\' :: done) rest := by
  rw [rawWord]

/-! ## Plain words -/

/-- A word without characters that have a meaning. -/
def IsPlain (w : List Char) : Prop := w ≠ [] ∧ w.all isPlainChar = true

instance (w : List Char) : Decidable (IsPlain w) :=
  decidable_of_iff ((!w.isEmpty && w.all isPlainChar) = true) (by simp [IsPlain])

theorem IsPlain.char {w : List Char} (h : IsPlain w) {c : Char} (hc : c ∈ w) :
    isPlainChar c = true :=
  List.all_eq_true.1 h.2 c hc

theorem rawWord_plain_append {w : List Char} (hw : ∀ c ∈ w, isPlainChar c = true) {fuel : Nat}
    (done : List Char) {rest : List Char} (hrest : WordEnd rest) (hfuel : w.length ≤ fuel) :
    rawWord fuel done (w ++ rest) = .ok (done.reverse ++ w, rest) := by
  induction w generalizing fuel done with
  | nil => rw [List.nil_append, rawWord_end fuel done hrest, List.append_nil]
  | cons c w ih =>
    obtain ⟨fuel, rfl⟩ := Nat.exists_eq_add_of_lt (Nat.lt_of_lt_of_le (Nat.succ_pos _) hfuel)
    rw [Nat.zero_add, List.cons_append, rawWord_plain (hw c List.mem_cons_self),
      ih (fun d hd => hw d (List.mem_cons_of_mem _ hd)) _ (by simpa using hfuel)]
    simp

theorem isRaw_plain {w : List Char} (h : IsPlain w) : IsRaw w where
  head := by
    obtain ⟨c, cs, rfl⟩ := List.exists_cons_of_ne_nil h.1
    have hc := h.char List.mem_cons_self
    exact ⟨c, cs, rfl, endsWord_of_plain hc, ne_of_plain hc rfl, ne_of_plain hc rfl⟩
  front c hc := by
    have hmem : c ∈ w := (List.dropWhile_sublist _).subset (List.mem_of_head? hc)
    exact endsWord_of_plain (h.char hmem)
  taken done _ hrest hfuel := rawWord_plain_append (fun _ => h.char) done hrest hfuel

/-! ## Quoted texts -/

theorem quotedChars_of_notMem {w : List Char} (hw : '\'' ∉ w) : quotedChars w = w := by
  induction w with
  | nil => rfl
  | cons c w ih =>
    rw [List.mem_cons, not_or] at hw
    rw [quotedChars_cons (Ne.symm hw.1), ih hw.2]

theorem quoteWord_of_notMem {w : List Char} (hw : '\'' ∉ w) :
    quoteWord w = '\'' :: (w ++ ['\'']) := by
  rw [quoteWord_eq, quotedChars_of_notMem hw]

/-- At a quote a quoted text is divided. -/
theorem quoteWord_append_quote {w : List Char} (hw : '\'' ∉ w) (s : List Char) :
    quoteWord (w ++ '\'' :: s) = '\'' :: (w ++ '\'' :: '\\' :: '\'' :: quoteWord s) := by
  have hsplit : quotedChars (w ++ '\'' :: s) = quotedChars w ++ quotedChars ('\'' :: s) :=
    List.flatMap_append
  rw [quoteWord_eq, hsplit, quotedChars_of_notMem hw, quotedChars_quote, quoteWord_eq]
  simp

/-- A text is one without quotes, or one of them up to the first quote and what follows it. -/
theorem quote_induction {P : List Char → Prop} (last : ∀ w, '\'' ∉ w → P w)
    (quote : ∀ w s, '\'' ∉ w → P s → P (w ++ '\'' :: s)) (s : List Char) : P s := by
  induction hn : s.length using Nat.strongRecOn generalizing s with
  | ind n ih =>
    cases hcut : Text.cutAt '\'' s with
    | none => exact last s (Text.cutAt_eq_none_iff.1 hcut)
    | some r =>
      obtain ⟨w, rest⟩ := r
      obtain ⟨rfl, hw⟩ := Text.cutAt_eq_some hcut
      exact quote w rest hw (ih rest.length (by simp [← hn]; omega) rest rfl)

theorem rawWord_quoteWord (s : List Char) {fuel : Nat} (done : List Char) {rest : List Char}
    (hrest : WordEnd rest) (hfuel : (quoteWord s).length ≤ fuel) :
    rawWord fuel done (quoteWord s ++ rest) = .ok (done.reverse ++ quoteWord s, rest) := by
  induction s using quote_induction generalizing fuel done with
  | last w hw =>
    rw [quoteWord_of_notMem hw] at hfuel ⊢
    obtain ⟨fuel, rfl⟩ := Nat.exists_eq_add_of_lt (Nat.lt_of_lt_of_le (Nat.succ_pos _) hfuel)
    rw [Nat.zero_add, List.cons_append, List.append_assoc, List.singleton_append,
      rawWord_single hw, rawWord_end fuel _ hrest]
    simp
  | quote w s hw ih =>
    rw [quoteWord_append_quote hw] at hfuel ⊢
    simp only [List.length_cons, List.length_append] at hfuel
    obtain ⟨fuel, rfl⟩ := Nat.exists_eq_add_of_le (Nat.le_trans (Nat.le_add_left 2 _) hfuel)
    have hstep : rawWord (2 + fuel) done
        ('\'' :: (w ++ '\'' :: '\\' :: '\'' :: quoteWord s) ++ rest) =
        rawWord fuel ('\'' :: '\\' :: '\'' :: (w.reverse ++ '\'' :: done))
          (quoteWord s ++ rest) := by
      rw [show 2 + fuel = fuel + 1 + 1 by omega, List.cons_append, List.append_assoc,
        List.cons_append, rawWord_single hw, List.cons_append, List.cons_append, rawWord_escape]
    rw [hstep, ih _ (by omega)]
    simp

theorem isRaw_quoteWord (s : List Char) : IsRaw (quoteWord s) where
  head := ⟨'\'', _, rfl, by decide, by decide, by decide⟩
  front c hc := by
    cases hc
    decide
  taken done _ hrest hfuel := rawWord_quoteWord s done hrest hfuel

/-! ## Parts -/

theorem cutParts_nil (fuel : Nat) (quoted : Bool) : cutParts fuel quoted [] = [] := by
  cases fuel <;> rfl

theorem special_of_plain {c : Char} (hc : isPlainChar c = true) : special false c = false := by
  have hslash : c ≠ '\\' := ne_of_plain hc rfl
  have hdollar : c ≠ '$' := ne_of_plain hc rfl
  have hback : c ≠ backquote := ne_of_plain hc rfl
  have hquote : c ≠ '\'' := ne_of_plain hc rfl
  have hdouble : c ≠ '"' := ne_of_plain hc rfl
  simp [special, hquote, hdouble, hback, hdollar, hslash]

/-- A plain word is one part, and not quoted. -/
theorem partsOf_plain {w : List Char} (h : IsPlain w) :
    partsOf false w = [.text false (String.ofList w)] := by
  obtain ⟨c, cs, rfl⟩ := List.exists_cons_of_ne_nil h.1
  have hc := special_of_plain (h.char List.mem_cons_self)
  have hcs : ∀ d ∈ cs, (!special false d) = true := fun d hd => by
    rw [special_of_plain (h.char (List.mem_cons_of_mem _ hd))]
    rfl
  unfold partsOf
  rw [cutParts, if_pos (by rw [hc]; rfl), List.takeWhile_eq_self_iff.2 hcs,
    List.dropWhile_eq_nil_iff.2 hcs, cutParts_nil]
  rintro d ds rfl
  exact absurd hc (by decide)

/-- Texts that are quoted, as parts of a word. -/
def quotedParts (ts : List String) : Word := ts.map (.text true)

theorem enclosed_single {w : List Char} (hw : '\'' ∉ w) (rest : List Char) :
    enclosed '\'' (w ++ '\'' :: rest) = some (w, rest) := by
  unfold enclosed
  rw [scan_single hw]
  simp

theorem cutParts_single {w : List Char} (hw : '\'' ∉ w) (fuel : Nat) (rest : List Char) :
    cutParts (fuel + 1) false ('\'' :: (w ++ '\'' :: rest)) =
      .text true (String.ofList w) :: cutParts fuel false rest := by
  rw [cutParts, if_neg (by decide), if_neg (by decide), enclosed_single hw]
  · rfl
  · exact fun c cs h => absurd h (by decide)

theorem cutParts_quoteWord (s : List Char) {fuel : Nat} (hfuel : (quoteWord s).length ≤ fuel) :
    ∃ ts, ts ≠ [] ∧ cutParts fuel false (quoteWord s) = quotedParts ts ∧
      ts.flatMap String.toList = s := by
  induction s using quote_induction generalizing fuel with
  | last w hw =>
    rw [quoteWord_of_notMem hw] at hfuel ⊢
    obtain ⟨fuel, rfl⟩ := Nat.exists_eq_add_of_lt (Nat.lt_of_lt_of_le (Nat.succ_pos _) hfuel)
    refine ⟨[String.ofList w], by simp, ?_, by simp⟩
    rw [Nat.zero_add, cutParts_single hw, cutParts_nil]
    rfl
  | quote w s hw ih =>
    rw [quoteWord_append_quote hw] at hfuel ⊢
    simp only [List.length_cons, List.length_append] at hfuel
    obtain ⟨fuel, rfl⟩ := Nat.exists_eq_add_of_le (Nat.le_trans (Nat.le_add_left 2 _) hfuel)
    obtain ⟨ts, hne, hparts, htext⟩ := @ih fuel (by omega)
    refine ⟨String.ofList w :: "'" :: ts, by simp, ?_, by simp [htext]⟩
    rw [show 2 + fuel = fuel + 1 + 1 by omega, cutParts_single hw, cutParts, if_neg (by decide),
      hparts]
    rfl

theorem partsOf_quoteWord_of_notMem {w : List Char} (hw : '\'' ∉ w) :
    partsOf false (quoteWord w) = [.text true (String.ofList w)] := by
  rw [quoteWord_of_notMem hw, partsOf, cutParts_single hw, cutParts_nil]

/-- The parts of a quoted text are quoted, and they make it up. -/
theorem partsOf_quoteWord (s : List Char) :
    ∃ ts, ts ≠ [] ∧ partsOf false (quoteWord s) = quotedParts ts ∧
      ts.flatMap String.toList = s :=
  cutParts_quoteWord s (Nat.le_succ _)

end Toolchain.Shell
