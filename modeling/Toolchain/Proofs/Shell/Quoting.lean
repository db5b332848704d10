import Toolchain.Environment.ModuleScript
import Toolchain.Shell.Reader

/-!
# Quoting

How the quotes of a script are read, character by character. Between single quotes every
character up to the next single quote stands for itself; outside of them a backslash makes the
next character stand for itself. What is neither quoted nor a mark that quotes is active: the
shell may give it a meaning, and some of it ends a word.

  * `Quoting` — where a reader stands; `Quoting.step` — what it does with one character.
  * `Quoting.roles` — what the characters of a text are read as.
  * `Quoting.words` — the words of a text.

## Main statements

  * `words_quoteWord` — a quoted text is one word, or part of one, whatever follows.
  * `roles_quoteWord` — its characters are read as literal ones, and none is active.
-/

namespace Toolchain.Shell

open ModuleScript

/-! ## The reader -/

/-- Where a reader stands: outside of quotes, between single quotes, or behind a backslash. -/
inductive Quoting
  | bare
  | single
  | escaped
  deriving DecidableEq, Repr

/-- What a character is read as. -/
inductive CharRole
  /-- It quotes other characters and is no part of the text. -/
  | mark
  /-- It is quoted and stands for itself. -/
  | literal
  /-- It is not quoted. -/
  | active
  deriving DecidableEq, Repr

namespace Quoting

/-- Reads a character. -/
def step (q : Quoting) (c : Char) : CharRole × Quoting :=
  match q with
  | bare =>
    if c = '\'' then (.mark, single) else if c = '\\' then (.mark, escaped) else (.active, bare)
  | single => if c = '\'' then (.mark, bare) else (.literal, single)
  | escaped => (.literal, bare)

/-- What the characters of a text are read as. -/
def roles : Quoting → List Char → List (Char × CharRole)
  | _, [] => []
  | q, c :: cs => (c, (q.step c).1) :: (q.step c).2.roles cs

/-- Where the reader stands behind a text. -/
def after : Quoting → List Char → Quoting
  | q, [] => q
  | q, c :: cs => (q.step c).2.after cs

/-- The words of a text, where `begun` is what has been read of a word that has begun; none if a
quote is not closed. -/
def words : Quoting → (begun : Option (List Char)) → List Char → Option (List (List Char))
  | bare, begun, [] => some begun.toList
  | _, _, [] => none
  | q, begun, c :: cs =>
    match q.step c with
    | (.mark, q) => q.words (some (begun.getD [])) cs
    | (.literal, q) => q.words (some (begun.getD [] ++ [c])) cs
    | (.active, q) =>
      if endsWord c then (q.words none cs).map (begun.toList ++ ·)
      else q.words (some (begun.getD [] ++ [c])) cs

/-! ## One character -/

variable {begun : Option (List Char)} {c : Char} {cs : List Char}

theorem words_open : bare.words begun ('\'' :: cs) = single.words (some (begun.getD [])) cs := rfl

theorem words_close :
    single.words begun ('\'' :: cs) = bare.words (some (begun.getD [])) cs := rfl

theorem words_escape (c : Char) :
    bare.words begun ('\\' :: c :: cs) = bare.words (some (begun.getD [] ++ [c])) cs := rfl

theorem words_single (hc : c ≠ '\'') :
    single.words begun (c :: cs) = single.words (some (begun.getD [] ++ [c])) cs := by
  simp [words, step, hc]

theorem roles_single (hc : c ≠ '\'') :
    single.roles (c :: cs) = (c, .literal) :: single.roles cs := by
  simp [roles, step, hc]

theorem after_single (hc : c ≠ '\'') : single.after (c :: cs) = single.after cs := by
  simp [after, step, hc]

theorem roles_append (q : Quoting) (s t : List Char) :
    q.roles (s ++ t) = q.roles s ++ (q.after s).roles t := by
  induction s generalizing q with
  | nil => rfl
  | cons c s ih => exact congrArg ((c, (q.step c).1) :: ·) (ih _)

/-- The characters that stand for themselves. -/
def literals (rs : List (Char × CharRole)) : List Char :=
  (rs.filter fun r => r.2 = .literal).map Prod.fst

end Quoting

/-! ## Quoted texts -/

/-- A text between the quotes around it. -/
def quotedChars (s : List Char) : List Char :=
  s.flatMap fun c => if c = '\'' then ['\'', '\\', '\'', '\''] else [c]

theorem quoteWord_eq (s : List Char) : quoteWord s = '\'' :: (quotedChars s ++ ['\'']) := rfl

theorem quotedChars_quote (s : List Char) :
    quotedChars ('\'' :: s) = '\'' :: '\\' :: '\'' :: '\'' :: quotedChars s := rfl

theorem quotedChars_cons {c : Char} (hc : c ≠ '\'') (s : List Char) :
    quotedChars (c :: s) = c :: quotedChars s := by
  simp [quotedChars, hc]

theorem words_quotedChars (s w rest : List Char) :
    Quoting.single.words (some w) (quotedChars s ++ '\'' :: rest) =
      Quoting.bare.words (some (w ++ s)) rest := by
  induction s generalizing w with
  | nil => rw [List.append_nil]; rfl
  | cons c s ih =>
    by_cases hc : c = '\''
    · subst hc
      -- out of the quotes, an escaped quote, and back into quotes
      rw [quotedChars_quote]
      simp only [List.cons_append]
      rw [Quoting.words_close, Quoting.words_escape, Quoting.words_open]
      simp only [Option.getD_some]
      rw [ih, List.append_assoc, List.singleton_append]
    · rw [quotedChars_cons hc, List.cons_append, Quoting.words_single hc, Option.getD_some, ih,
        List.append_assoc, List.singleton_append]

/-- Whatever follows, a quoted text adds to the word that has begun, or begins one. -/
theorem words_quoteWord (begun : Option (List Char)) (s rest : List Char) :
    Quoting.bare.words begun (quoteWord s ++ rest) =
      Quoting.bare.words (some (begun.getD [] ++ s)) rest := by
  rw [quoteWord_eq, List.cons_append, List.append_assoc, List.singleton_append,
    Quoting.words_open, words_quotedChars]

theorem roles_quotedChars (s : List Char) :
    Quoting.literals (Quoting.single.roles (quotedChars s ++ ['\''])) = s ∧
      (∀ r ∈ Quoting.single.roles (quotedChars s ++ ['\'']), r.2 ≠ .active) ∧
      Quoting.single.after (quotedChars s ++ ['\'']) = .bare := by
  induction s with
  | nil => exact ⟨rfl, by decide, rfl⟩
  | cons c s ih =>
    obtain ⟨hliterals, hactive, hafter⟩ := ih
    by_cases hc : c = '\''
    · subst hc
      refine ⟨congrArg ('\'' :: ·) hliterals, ?_, hafter⟩
      have hroles : Quoting.single.roles (quotedChars ('\'' :: s) ++ ['\'']) =
          [('\'', .mark), ('\\', .mark), ('\'', .literal), ('\'', .mark)] ++
            Quoting.single.roles (quotedChars s ++ ['\'']) := rfl
      rw [hroles]
      exact List.forall_mem_append.2 ⟨by decide, hactive⟩
    · rw [quotedChars_cons hc, List.cons_append, Quoting.roles_single hc, Quoting.after_single hc]
      exact ⟨congrArg (c :: ·) hliterals,
        List.forall_mem_cons.2 ⟨(fun h => nomatch h), hactive⟩, hafter⟩

/-- The characters of a text are literal ones where it is quoted, and nothing is active; behind
it the reader stands outside of quotes. -/
theorem roles_quoteWord (s : List Char) :
    Quoting.literals (Quoting.bare.roles (quoteWord s)) = s ∧
      (∀ r ∈ Quoting.bare.roles (quoteWord s), r.2 ≠ .active) ∧
      Quoting.bare.after (quoteWord s) = .bare := by
  obtain ⟨hliterals, hactive, hafter⟩ := roles_quotedChars s
  exact ⟨hliterals, List.forall_mem_cons.2 ⟨by decide, hactive⟩, hafter⟩

end Toolchain.Shell
