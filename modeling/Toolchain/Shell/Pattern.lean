/-!
# Patterns

A pattern describes texts: `*` stands for any text, `?` for one character, and a bracket
list for one character that is in it, or is not if the list begins with `!`. A quoted
character stands for itself.

  * `Pattern.ofMarked` — reads a pattern.
  * `Pattern.accepts` — whether it describes a text.
  * `Pattern.cutFront`, `Pattern.cutBack` — a text without the shortest or longest beginning
    or end that a pattern describes.

## Main statements

`accepts_ofText` — a pattern of characters that stand for themselves describes one text.
-/

namespace Toolchain.Shell

/-- What one place of a pattern stands for. -/
inductive PatternItem
  | char (c : Char)
  | one
  | any
  | oneOf (negated : Bool) (ranges : List (Char × Char))
  deriving DecidableEq, Repr

/-- A pattern as the items that follow one another. -/
abbrev Pattern := List PatternItem

/-- A character with a mark that says whether it was quoted. -/
abbrev Marked := Char × Bool

namespace Pattern

/-! ## Reading -/

/-- The ranges of a bracket list up to its end; a `]` that comes first belongs to the
list. -/
def ranges (first : Bool) : List Marked → Option (List (Char × Char) × List Marked)
  | [] => none
  | (c, quoted) :: ('-', false) :: (d, other) :: rest =>
    if c = ']' ∧ quoted = false ∧ first = false then some ([], ('-', false) :: (d, other) :: rest)
    else if d = ']' ∧ other = false then
      (ranges false (('-', true) :: (d, other) :: rest)).map fun (rs, rest) =>
        ((c, c) :: rs, rest)
    else (ranges false rest).map fun (rs, rest) => ((c, d) :: rs, rest)
  | (c, quoted) :: rest =>
    if c = ']' ∧ quoted = false ∧ first = false then some ([], rest)
    else (ranges false rest).map fun (rs, rest) => ((c, c) :: rs, rest)
termination_by s => s.length

/-- A bracket list behind its opening bracket. -/
def bracket (s : List Marked) : Option (PatternItem × List Marked) :=
  match s with
  | ('!', false) :: rest | ('^', false) :: rest =>
    (ranges true rest).map fun (rs, rest) => (.oneOf true rs, rest)
  | s => (ranges true s).map fun (rs, rest) => (.oneOf false rs, rest)

/-- Reads a pattern; the fuel bounds the number of items. A bracket that is never closed
stands for itself. -/
def readItems : Nat → List Marked → Pattern
  | 0, _ => []
  | _, [] => []
  | fuel + 1, (c, quoted) :: rest =>
    if quoted then .char c :: readItems fuel rest
    else
      match c with
      | '*' => .any :: readItems fuel rest
      | '?' => .one :: readItems fuel rest
      | '[' =>
        match bracket rest with
        | some (item, rest) => item :: readItems fuel rest
        | none => .char '[' :: readItems fuel rest
      | c => .char c :: readItems fuel rest

/-- The pattern that marked characters are. -/
def ofMarked (s : List Marked) : Pattern := readItems s.length s

/-- The pattern of characters that stand for themselves. -/
def ofText (s : List Char) : Pattern := s.map .char

/-- Whether some item may stand for more than one text. -/
def isOpen (p : Pattern) : Bool :=
  p.any fun
    | .char _ => false
    | _ => true

/-! ## Matching -/

/-- Whether an item other than `any` describes a character. -/
def itemAccepts : PatternItem → Char → Bool
  | .char c, d => c == d
  | .one, _ => true
  | .any, _ => true
  | .oneOf negated rs, d => (rs.any fun (low, high) => low ≤ d && d ≤ high) != negated

/-- Whether a pattern describes a text. -/
def accepts : Pattern → List Char → Bool
  | [], s => s.isEmpty
  | .any :: rest, [] => accepts rest []
  | .any :: rest, c :: s => accepts rest (c :: s) || accepts (.any :: rest) s
  | _ :: _, [] => false
  | item :: rest, c :: s => itemAccepts item c && accepts rest s
termination_by p s => (p.length, s.length)

theorem accepts_ofText (s t : List Char) : accepts (ofText s) t = true ↔ t = s := by
  induction s generalizing t with
  | nil => cases t <;> simp [ofText, accepts]
  | cons c s ih =>
    cases t with
    | nil => simp [ofText, accepts]
    | cons d t =>
      have := ih t
      simp only [ofText, List.map_cons, accepts, itemAccepts, Bool.and_eq_true, beq_iff_eq] at *
      rw [this]
      constructor
      · rintro ⟨rfl, rfl⟩
        rfl
      · intro h
        cases h
        exact ⟨rfl, rfl⟩

/-! ## Cutting -/

/-- The lengths of the beginnings of a text that a pattern describes, the shortest first. -/
def frontLengths (p : Pattern) (s : List Char) : List Nat :=
  (List.range (s.length + 1)).filter fun n => accepts p (s.take n)

/-- A text without a beginning that a pattern describes. -/
def cutFront (longest : Bool) (p : Pattern) (s : List Char) : List Char :=
  let lengths := frontLengths p s
  match (if longest then lengths.getLast? else lengths.head?) with
  | some n => s.drop n
  | none => s

/-- The places of a text from which on a pattern describes it, the first one first. -/
def backPlaces (p : Pattern) (s : List Char) : List Nat :=
  (List.range (s.length + 1)).filter fun n => accepts p (s.drop n)

/-- A text without an end that a pattern describes. -/
def cutBack (longest : Bool) (p : Pattern) (s : List Char) : List Char :=
  let places := backPlaces p s
  match (if longest then places.head? else places.getLast?) with
  | some n => s.take n
  | none => s

end Pattern

end Toolchain.Shell
