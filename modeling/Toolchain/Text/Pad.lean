/-!
# Padding

A short name is written in a column: cut to at most `precision` characters, then filled up
to `width` characters. Both are counted in characters.
-/

namespace Toolchain.Text

/-- Where the text stands in its column. -/
inductive Align
  | left
  | right
  | centre
  deriving DecidableEq, Repr

/-- A column: its width, the fill, where the text stands, and how many characters of the
text are kept at most. -/
structure Column where
  width : Nat
  align : Align := .left
  fill : Char := ' '
  precision : Option Nat := none
  deriving DecidableEq, Repr

/-- How many fill characters stand before and after a text that lacks `n` characters: a
centred text has the odd one after it. -/
def Align.share (n : Nat) : Align → Nat × Nat
  | .left => (0, n)
  | .right => (n, 0)
  | .centre => (n / 2, n - n / 2)

theorem Align.share_sum (n : Nat) (a : Align) : (a.share n).1 + (a.share n).2 = n := by
  cases a <;> simp [Align.share]; omega

/-- The text in its column. A text that is too long is not cut to the width. -/
def Column.write (c : Column) (s : List Char) : List Char :=
  let kept := match c.precision with
    | some p => s.take p
    | none => s
  let (before, after) := c.align.share (c.width - kept.length)
  List.replicate before c.fill ++ kept ++ List.replicate after c.fill

/-- The written text fills the column, or is what is kept where that is longer. -/
theorem Column.length_write (c : Column) (s : List Char) :
    (c.write s).length = max c.width (match c.precision with
      | some p => s.take p
      | none => s).length := by
  have h := fun n => Align.share_sum n c.align
  simp only [Column.write, List.length_append, List.length_replicate]
  generalize (match c.precision with
      | some p => s.take p
      | none => s) = kept
  have := h (c.width - kept.length)
  omega

end Toolchain.Text

namespace Toolchain

/-- A string in a column. -/
def padded (c : Text.Column) (s : String) : String := String.ofList (c.write s.toList)

/-- A string filled with spaces on its right. -/
def padRight (width : Nat) (s : String) : String := padded { width } s

/-- A string filled with spaces on its left. -/
def padLeft (width : Nat) (s : String) : String := padded { width, align := .right } s

example : padLeft 5 "ok" = "   ok" := by decide

end Toolchain
