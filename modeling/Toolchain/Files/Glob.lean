import Toolchain.Files.Tree

/-!
# Searching by pattern

A pattern is a path in which `?`, `*` and brackets stand for more than themselves. The search
itself comes from outside, so it is a value (`Glob`): how a text is written in a pattern where
it shall stand for itself only, and what a search finds.

`Glob.plain` is such a search for the patterns that occur here: texts, with what would have a
meaning in brackets, and a `*` at the end.
-/

namespace Toolchain

/-- A search by pattern. -/
structure Glob where
  /-- A text as it is written in a pattern that only this text matches. -/
  escape : String → String
  /-- The paths that match a pattern, with a fault for each directory that cannot be listed;
  `none` if the text is no pattern. -/
  search : FileTree → Place → String → Option (List (Except FileFault Path))

namespace Glob

/-- A character that has a meaning in patterns. -/
def isSpecial (c : Char) : Bool := c == '?' || c == '*' || c == '[' || c == ']'

/-- A text with each special character in brackets. -/
def escapeChars (s : List Char) : List Char :=
  s.flatMap fun c => if isSpecial c then ['[', c, ']'] else [c]

/-- The text that was escaped. -/
def literal? : List Char → Option (List Char)
  | [] => some []
  | '[' :: c :: ']' :: rest => if isSpecial c then (literal? rest).map (c :: ·) else none
  | c :: rest => if isSpecial c then none else (literal? rest).map (c :: ·)

/-- The directory and the beginning of the names that a pattern asks for, if it is an escaped
text with a `*` at the end. -/
def stemIn? (pattern : List Char) : Option (List Char × List Char) :=
  match Text.cutAt '/' pattern.reverse with
  | some ('*' :: stem, dir) =>
    match literal? dir.reverse, literal? stem.reverse with
    | some dir, some stem => some (dir, stem)
    | _, _ => none
  | _ => none

/-- The entries of a directory whose names begin with a text. The empty path before a
separator is the root. -/
def entriesFrom (t : FileTree) (cwd : Place) (dir : Path) (stem : List Char) :
    List (Except FileFault Path) :=
  ((t.list cwd (if dir.text = "" then ⟨"/"⟩ else dir)).filter fun name =>
    stem.isPrefixOf name.toList).map fun name => .ok (dir.entry name)

/-- What an escaped text with a `*` at the end finds. -/
def plainSearch (t : FileTree) (cwd : Place) (pattern : String) :
    Option (List (Except FileFault Path)) :=
  (stemIn? pattern.toList).map fun (dir, stem) => entriesFrom t cwd ⟨String.ofList dir⟩ stem

/-- A search for names that begin with a text. -/
def plain : Glob where
  escape s := String.ofList (escapeChars s.toList)
  search := plainSearch

end Glob

end Toolchain
