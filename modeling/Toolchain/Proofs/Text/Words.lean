import Toolchain.Text.Split

/-!
# Pieces and words of a text that is put together

A text is cut at each separator on its own, so the pieces of two texts with a separator
between them are those of the one and then those of the other. From this, pieces that are
written with separators between them are found again, and words with blanks.

## Main statements

  * `pieces_append_cons` — a separator divides a text.
  * `pieces_joinWith` — pieces without separators are found again.
  * `words_joinWith` — so are words.
  * `mem_of_mem_lines` — the characters of the lines are those of the text.
  * `flatMap_lines` — a text is read line by line, whatever ends its lines.
-/

namespace Toolchain.Text

/-! ## Pieces -/

/-- A text without separators is one piece. -/
theorem pieces_eq_singleton {p : Char → Bool} {w : List Char} (h : ∀ c ∈ w, p c = false) :
    pieces p w = [w] := by
  induction w with
  | nil => rfl
  | cons c cs ih =>
    have hc : p c = false := h c List.mem_cons_self
    rw [pieces, ih fun d hd => h d (List.mem_cons_of_mem _ hd), hc]
    rfl

theorem consFirst_append {c : Char} {ws vs : List (List Char)} (h : ws ≠ []) :
    consFirst c (ws ++ vs) = consFirst c ws ++ vs := by
  cases ws with
  | nil => exact absurd rfl h
  | cons w ws => rfl

/-- A separator divides a text. -/
theorem pieces_append_cons {p : Char → Bool} {d : Char} (hd : p d = true) (s t : List Char) :
    pieces p (s ++ d :: t) = pieces p s ++ pieces p t := by
  induction s with
  | nil =>
    show (if p d then [] :: pieces p t else _) = _
    rw [if_pos hd]
    rfl
  | cons c cs ih =>
    show (if p c then [] :: pieces p (cs ++ d :: t) else consFirst c (pieces p (cs ++ d :: t))) =
      (if p c then [] :: pieces p cs else consFirst c (pieces p cs)) ++ pieces p t
    rw [ih]
    split
    · rfl
    · exact consFirst_append (pieces_ne_nil p cs)

/-- A text without a mark is one piece. -/
theorem pieces_of_notMem {d : Char} {w : List Char} (h : d ∉ w) : pieces (· == d) w = [w] := by
  apply pieces_eq_singleton
  intro c hc
  simpa using fun heq : c = d => h (heq ▸ hc)

/-- The first piece goes up to the first mark. -/
theorem pieces_append_mark {d : Char} {w : List Char} (h : d ∉ w) (rest : List Char) :
    pieces (· == d) (w ++ d :: rest) = w :: pieces (· == d) rest := by
  rw [pieces_append_cons (by simp), pieces_of_notMem h]
  rfl

/-- Pieces without separators, written with one between them, are found again. -/
theorem pieces_joinWith {p : Char → Bool} {d : Char} (hd : p d = true) {ws : List (List Char)}
    (hne : ws ≠ []) (h : ∀ w ∈ ws, ∀ c ∈ w, p c = false) : pieces p (joinWith [d] ws) = ws := by
  induction ws with
  | nil => exact absurd rfl hne
  | cons w ws ih =>
    have hw := pieces_eq_singleton (h w List.mem_cons_self)
    cases ws with
    | nil => exact hw
    | cons v ws =>
      show pieces p (w ++ [d] ++ joinWith [d] (v :: ws)) = _
      rw [List.append_assoc, List.singleton_append, pieces_append_cons hd, hw,
        ih (by simp) fun u hu => h u (List.mem_cons_of_mem _ hu)]
      rfl

theorem joinWith_concat (sep : List Char) {ws : List (List Char)} (hne : ws ≠ [])
    (w : List Char) : joinWith sep (ws ++ [w]) = joinWith sep ws ++ sep ++ w := by
  induction ws with
  | nil => exact absurd rfl hne
  | cons v ws ih =>
    cases ws with
    | nil => rfl
    | cons u ws =>
      show v ++ sep ++ joinWith sep (u :: ws ++ [w]) = _
      rw [ih (by simp)]
      simp [joinWith]

/-- A character of a joined text is one of the separator or of a piece. -/
theorem mem_of_mem_joinWith {sep : List Char} {ws : List (List Char)} {c : Char}
    (h : c ∈ joinWith sep ws) : c ∈ sep ∨ ∃ w ∈ ws, c ∈ w := by
  induction ws with
  | nil => cases h
  | cons w ws ih =>
    cases ws with
    | nil => exact .inr ⟨w, List.mem_cons_self, h⟩
    | cons v ws =>
      have hmem : c ∈ w ++ sep ++ joinWith sep (v :: ws) := h
      rcases List.mem_append.1 hmem with hfirst | hrest
      · rcases List.mem_append.1 hfirst with hw | hsep
        · exact .inr ⟨w, List.mem_cons_self, hw⟩
        · exact .inl hsep
      · rcases ih hrest with hsep | ⟨u, hu, hc⟩
        · exact .inl hsep
        · exact .inr ⟨u, List.mem_cons_of_mem w hu, hc⟩

/-! ## Words -/

/-- A text that is not empty and has no blanks. -/
def IsWord (w : List Char) : Prop := w ≠ [] ∧ ∀ c ∈ w, isBlank c = false

theorem isWord_of_mem_words {s w : List Char} (h : w ∈ words s) : IsWord w :=
  ⟨ne_nil_of_mem_words h, not_blank_of_mem_words h⟩

/-- Words, written with a blank between them, are read back. -/
theorem words_joinWith {ws : List (List Char)} (h : ∀ w ∈ ws, IsWord w) :
    words (joinWith [' '] ws) = ws := by
  cases ws with
  | nil => rfl
  | cons w ws =>
    unfold words
    rw [pieces_joinWith (by decide) (by simp) fun v hv => (h v hv).2]
    exact List.filter_eq_self.2 fun v hv => by simpa using (h v hv).1

/-! ## Characters of pieces and lines -/

theorem mem_of_mem_pieces {p : Char → Bool} {s w : List Char} (hw : w ∈ pieces p s) {c : Char}
    (hc : c ∈ w) : c ∈ s := by
  induction s generalizing w with
  | nil =>
    obtain rfl := List.mem_singleton.1 hw
    cases hc
  | cons d ds ih =>
    unfold pieces at hw
    split at hw
    · rcases List.mem_cons.1 hw with rfl | hw
      · cases hc
      · exact List.mem_cons_of_mem _ (ih hw hc)
    · cases hps : pieces p ds with
      | nil => exact absurd hps (pieces_ne_nil p ds)
      | cons v vs =>
        rw [hps] at hw ih
        rcases List.mem_cons.1 hw with rfl | hw
        · rcases List.mem_cons.1 hc with rfl | hc
          · exact List.mem_cons_self
          · exact List.mem_cons_of_mem _ (ih List.mem_cons_self hc)
        · exact List.mem_cons_of_mem _ (ih (List.mem_cons_of_mem _ hw) hc)

theorem mem_of_mem_dropReturn {s : List Char} {c : Char} (h : c ∈ dropReturn s) : c ∈ s := by
  unfold dropReturn at h
  split at h
  · exact (List.dropLast_sublist s).mem h
  · exact h

theorem exists_piece_of_mem_lines {ws : List (List Char)} {l : List Char}
    (hl : l ∈ linesOfPieces ws) {c : Char} (hc : c ∈ l) : ∃ w ∈ ws, c ∈ w := by
  fun_induction linesOfPieces ws with
  | case1 => cases hl
  | case2 => cases hl
  | case3 w _ => exact ⟨l, hl, hc⟩
  | case4 w ws _ ih =>
    rcases List.mem_cons.1 hl with rfl | hl
    · exact ⟨w, List.mem_cons_self, mem_of_mem_dropReturn hc⟩
    · obtain ⟨v, hv, hcv⟩ := ih hl
      exact ⟨v, List.mem_cons_of_mem _ hv, hcv⟩

/-- The characters of the lines are characters of the text. -/
theorem mem_of_mem_lines {s l : List Char} (hl : l ∈ lines s) {c : Char} (hc : c ∈ l) :
    c ∈ s := by
  obtain ⟨w, hw, hcw⟩ := exists_piece_of_mem_lines hl hc
  exact mem_of_mem_pieces hw hcw

/-! ## Line by line -/

/-- Only the end of a line is looked at for a carriage return. -/
theorem dropReturn_append {t : List Char} (ht : t ≠ []) (s : List Char) :
    dropReturn (s ++ t) = s ++ dropReturn t := by
  have hlast : (s ++ t).getLast? = t.getLast? := by
    rw [List.getLast?_append, List.getLast?_eq_some_getLast ht, Option.some_or]
  unfold dropReturn
  rw [hlast]
  split
  · exact List.dropLast_append_of_ne_nil ht
  · rfl

/-- What is read from the lines of a text is what is read from its pieces between line feeds,
if nothing is read from an empty line and a carriage return at the end of one makes no
difference. -/
theorem flatMap_lines {α : Type} {read : List Char → List α} (hnil : read [] = [])
    (hreturn : ∀ line, read (dropReturn line) = read line) (s : List Char) :
    (lines s).flatMap read = (pieces (· == '\n') s).flatMap read := by
  unfold lines
  generalize pieces (· == '\n') s = ws
  fun_induction linesOfPieces ws with
  | case1 => rfl
  | case2 => simp [hnil]
  | case3 w hw => rfl
  | case4 w ws hws ih => rw [List.flatMap_cons, List.flatMap_cons, ih, hreturn]

end Toolchain.Text

namespace Toolchain

/-- Blanks within a line. -/
def LineBlanks (gap : String) : Prop := ∀ c ∈ gap.toList, Text.isBlank c = true ∧ c ≠ '\n'

instance (gap : String) : Decidable (LineBlanks gap) := List.decidableBAll _ _

theorem LineBlanks.blank {gap : String} (h : LineBlanks gap) :
    ∀ c ∈ gap.toList, Text.isBlank c = true := fun c hc => (h c hc).1

theorem LineBlanks.newline_notMem {gap : String} (h : LineBlanks gap) : '\n' ∉ gap.toList :=
  fun hc => (h '\n' hc).2 rfl

end Toolchain
