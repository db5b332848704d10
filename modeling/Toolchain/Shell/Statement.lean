/-!
# Statements

What the commands of a shell are made of. A word is a list of parts that are expanded one
by one; what stands inside a substitution is kept as it was written and read when it is
expanded. Statements are simple commands and what combines them.
-/

namespace Toolchain.Shell

/-! ## Words -/

/-- What is done with the value of a parameter. With `alsoEmpty` an empty value counts as a
missing one. -/
inductive Modifier
  | plain
  | length
  | default (alsoEmpty : Bool) (word : String)
  | assign (alsoEmpty : Bool) (word : String)
  | demand (alsoEmpty : Bool) (message : String)
  | replace (alsoEmpty : Bool) (word : String)
  | cutFront (longest : Bool) (pattern : String)
  | cutBack (longest : Bool) (pattern : String)
  deriving DecidableEq, Repr

/-- A part of a word. -/
inductive Part
  | text (quoted : Bool) (s : String)
  | parameter (quoted : Bool) (name : String) (modifier : Modifier)
  | output (quoted : Bool) (script : String)
  | arithmetic (quoted : Bool) (expression : String)
  /-- A substitution that cannot be read. -/
  | unreadable
  deriving DecidableEq, Repr

/-- A word as its parts. -/
abbrev Word := List Part

/-! ## Commands -/

/-- How a descriptor is redirected. -/
inductive RedirectionKind
  | input
  | output
  | append
  | duplicate
  deriving DecidableEq, Repr

/-- A descriptor and where it leads instead. -/
structure Redirection where
  descriptor : Nat
  kind : RedirectionKind
  target : Word
  deriving DecidableEq, Repr

/-- A statement. Line numbers are for messages. -/
inductive Statement
  | simple (line : Nat) (assignments : List (String × Word)) (words : List Word)
      (redirections : List Redirection)
  | sequence (statements : List Statement)
  | pipe (left right : Statement)
  | both (left right : Statement)
  | either (left right : Statement)
  | negated (statement : Statement)
  | background (statement : Statement)
  | subshell (statement : Statement)
  | redirected (line : Nat) (statement : Statement) (redirections : List Redirection)
  | branch (condition body otherwise : Statement)
  | repeated (untilTrue : Bool) (condition body : Statement)
  | each (name : String) (words : Option (List Word)) (body : Statement)
  | choose (word : Word) (arms : List (List Word × Statement))
  | define (name : String) (body : Statement)
  deriving Inhabited

end Toolchain.Shell
