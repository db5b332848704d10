/-!
# Splitting and trimming text

Text is handled as `List Char`. This file holds the blank characters, the ways of
cutting a text into pieces, and trimming.

  * `isBlank` — the characters with the Unicode property `White_Space`.
  * `pieces p s` — cut at every character that satisfies `p`; empty pieces stay,
    so there is always one piece more than there are separators.
  * `words s` — the maximal runs of characters that are not blank.
  * `lines s` — cut after every line feed; a carriage return before it goes too.
  * `cutAt c s` — the two sides of the first `c`; `cutAround pat s` — the two sides
    of the first occurrence of a whole text.

## Main statements

`intersperse` of the pieces gives the text back (`joinWith_pieces`), no piece holds a
separator (`not_mem_of_mem_pieces`), and no word is empty or holds a blank.
-/

namespace Toolchain.Text

/-! ## Blank characters -/

/-- The code points with the Unicode property `White_Space`: six controls, the space, and
eighteen characters outside ASCII. -/
def blankCodes : List Nat :=
  [0x09, 0x0A, 0x0B, 0x0C, 0x0D, 0x20, 0x85, 0xA0, 0x1680, 0x2000, 0x2001, 0x2002, 0x2003,
   0x2004, 0x2005, 0x2006, 0x2007, 0x2008, 0x2009, 0x200A, 0x2028, 0x2029, 0x202F, 0x205F,
   0x3000]

/-- A character that separates words and is trimmed away. -/
def isBlank (c : Char) : Bool := blankCodes.contains c.toNat

example : blankCodes.length = 25 := rfl
example : isBlank ' ' ∧ isBlank '\x0b' ∧ isBlank '\u00a0' ∧ isBlank '\u200b' = false := by decide

/-! ## Cutting at separators -/

/-- Puts `c` in front of the first piece. -/
def consFirst (c : Char) : List (List Char) → List (List Char)
  | [] => [[c]]
  | w :: ws => (c :: w) :: ws

/-- Cuts at every character that satisfies `p`. The separators are dropped and empty
pieces are kept, so the empty text is one empty piece. -/
def pieces (p : Char → Bool) : List Char → List (List Char)
  | [] => [[]]
  | c :: cs => if p c then [] :: pieces p cs else consFirst c (pieces p cs)

@[simp] theorem pieces_nil (p : Char → Bool) : pieces p [] = [[]] := rfl

theorem pieces_ne_nil (p : Char → Bool) (s : List Char) : pieces p s ≠ [] := by
  cases s with
  | nil => simp
  | cons c cs =>
    unfold pieces
    split
    · simp
    · cases pieces p cs <;> simp [consFirst]

theorem not_mem_of_mem_pieces {p : Char → Bool} {s w : List Char} (hw : w ∈ pieces p s) :
    ∀ c ∈ w, p c = false := by
  induction s generalizing w with
  | nil => simp_all
  | cons c cs ih =>
    unfold pieces at hw
    split at hw
    · rcases List.mem_cons.1 hw with rfl | h
      · simp
      · exact ih h
    · rename_i hc
      cases hps : pieces p cs with
      | nil => exact absurd hps (pieces_ne_nil p cs)
      | cons v vs =>
        rw [hps] at hw ih
        rcases List.mem_cons.1 hw with rfl | h
        · intro d hd
          rcases List.mem_cons.1 hd with rfl | hd
          · simpa using hc
          · exact ih (List.mem_cons_self ..) d hd
        · exact ih (List.mem_cons_of_mem _ h)

/-- Writes the pieces one after the other with `sep` between them. -/
def joinWith (sep : List Char) : List (List Char) → List Char
  | [] => []
  | [w] => w
  | w :: v :: ws => w ++ sep ++ joinWith sep (v :: ws)

theorem joinWith_consFirst (sep : List Char) (c : Char) {ws : List (List Char)} (h : ws ≠ []) :
    joinWith sep (consFirst c ws) = c :: joinWith sep ws := by
  match ws, h with
  | [w], _ => rfl
  | w :: v :: ws, _ => rfl

/-- Joining the pieces with the separator they were cut at gives the text back. -/
theorem joinWith_pieces (d : Char) (s : List Char) : joinWith [d] (pieces (· == d) s) = s := by
  induction s with
  | nil => rfl
  | cons c cs ih =>
    unfold pieces
    split
    · rename_i hc
      have hcd : c = d := by simpa using hc
      cases hps : pieces (· == d) cs with
      | nil => exact absurd hps (pieces_ne_nil _ cs)
      | cons v vs => rw [hps] at ih; simp [joinWith, ih, hcd]
    · rw [joinWith_consFirst _ _ (pieces_ne_nil _ cs), ih]

/-! ## Words and lines -/

/-- The maximal runs of characters that are not blank, in order. -/
def words (s : List Char) : List (List Char) := (pieces isBlank s).filter (· ≠ [])

theorem ne_nil_of_mem_words {s w : List Char} (h : w ∈ words s) : w ≠ [] := by
  simpa using (List.mem_filter.1 h).2

theorem not_blank_of_mem_words {s w : List Char} (h : w ∈ words s) :
    ∀ c ∈ w, isBlank c = false :=
  not_mem_of_mem_pieces (List.mem_filter.1 h).1

@[simp] theorem words_nil : words [] = [] := rfl

/-- Drops one carriage return at the end. -/
def dropReturn (s : List Char) : List Char :=
  if s.getLast? = some '\r' then s.dropLast else s

/-- The lines of a text whose pieces at the line feeds are given: the last piece has no
line feed after it, so it stands as it is and an empty one is no line. -/
def linesOfPieces : List (List Char) → List (List Char)
  | [] => []
  | [last] => if last = [] then [] else [last]
  | w :: ws => dropReturn w :: linesOfPieces ws

/-- The lines of a text, without their ends `\n` or `\r\n`. -/
def lines (s : List Char) : List (List Char) := linesOfPieces (pieces (· == '\n') s)

/-! ## Trimming -/

/-- Drops the characters satisfying `p` at both ends. -/
def trimBoth (p : Char → Bool) (s : List Char) : List Char :=
  ((s.dropWhile p).reverse.dropWhile p).reverse

/-- Drops the blanks at both ends. -/
def trim (s : List Char) : List Char := trimBoth isBlank s

@[simp] theorem trim_nil : trim [] = [] := rfl

/-! ## Cutting in two -/

/-- What stands before and after the first `d`. -/
def cutAt (d : Char) : List Char → Option (List Char × List Char)
  | [] => none
  | c :: cs => if c = d then some ([], cs) else (cutAt d cs).map fun (a, b) => (c :: a, b)

theorem cutAt_eq_some {d : Char} {s a b : List Char} (h : cutAt d s = some (a, b)) :
    s = a ++ d :: b ∧ d ∉ a := by
  induction s generalizing a with
  | nil => simp [cutAt] at h
  | cons c cs ih =>
    unfold cutAt at h
    split at h
    · rename_i hc
      simp only [Option.some.injEq, Prod.mk.injEq] at h
      simp [← h.1, ← h.2, hc]
    · rename_i hc
      obtain ⟨⟨a', b'⟩, h', e⟩ := Option.map_eq_some_iff.1 h
      simp only [Prod.mk.injEq] at e
      obtain ⟨rfl, rfl⟩ := e
      obtain ⟨e, hm⟩ := ih h'
      exact ⟨by simp [e], by simp [Ne.symm hc, hm]⟩

/-- The rest of `s` after `pat`, if `s` starts with it. -/
def dropStart? : (pat : List Char) → (s : List Char) → Option (List Char)
  | [], s => some s
  | _ :: _, [] => none
  | p :: ps, c :: cs => if p = c then dropStart? ps cs else none

theorem dropStart?_eq_some {pat s r : List Char} : dropStart? pat s = some r ↔ s = pat ++ r := by
  induction pat generalizing s with
  | nil => simp [dropStart?, eq_comm]
  | cons p ps ih =>
    cases s with
    | nil => simp [dropStart?]
    | cons c cs =>
      unfold dropStart?
      split
      · rename_i h; simp [ih, h]
      · rename_i h; simp [Ne.symm h]

/-- What stands before and after the first occurrence of `pat`. -/
def cutAround (pat : List Char) : List Char → Option (List Char × List Char)
  | [] => if pat = [] then some ([], []) else none
  | c :: cs =>
    match dropStart? pat (c :: cs) with
    | some rest => some ([], rest)
    | none => (cutAround pat cs).map fun (a, b) => (c :: a, b)

/-- Whether `pat` occurs in `s`. -/
def occursIn (pat s : List Char) : Bool := (cutAround pat s).isSome

/-- The rest of `s` before `pat`, if `s` ends with it. -/
def dropEnd? (pat s : List Char) : Option (List Char) :=
  (dropStart? pat.reverse s.reverse).map List.reverse

/-! ## The same on strings -/

end Toolchain.Text

namespace Toolchain

/-- The words of a string. -/
def wordsOf (s : String) : List String := (Text.words s.toList).map String.ofList

/-- The lines of a string. -/
def linesOf (s : String) : List String := (Text.lines s.toList).map String.ofList

/-- A string without the blanks at its ends. -/
def trimmed (s : String) : String := String.ofList (Text.trim s.toList)

/-- The pieces of a string between the occurrences of `d`. -/
def piecesOf (d : Char) (s : String) : List String :=
  (Text.pieces (· == d) s.toList).map String.ofList

/-- Strings one after the other with `sep` between them. -/
def joined (sep : String) : List String → String
  | [] => ""
  | [w] => w
  | w :: v :: ws => w ++ sep ++ joined sep (v :: ws)

/-- A string whose every character is kept except that `find` becomes `put`. -/
def replaced (find : Char) (put : String) (s : String) : String :=
  String.ofList (s.toList.flatMap fun c => if c = find then put.toList else [c])

theorem toList_joined (sep : String) (ws : List String) :
    (joined sep ws).toList = Text.joinWith sep.toList (ws.map String.toList) := by
  match ws with
  | [] => rfl
  | [w] => rfl
  | w :: v :: ws =>
    simp [joined, Text.joinWith, toList_joined sep (v :: ws), String.toList_append]

end Toolchain
