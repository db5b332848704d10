import Toolchain.Environment.Variables

/-!
# Environment modules

A module system keeps named sets of environment changes. A *loader* stands for it: asked to
show, load or unload a module, it answers what was printed and which variables change, or
fails with a message. It sees the environment and may remember what it was asked before;
the changes are not made by the loader but by whoever asked.

`moduleConflicts` reads from what `show` printed which modules must not be loaded together
with a module. A conflict line is `conflict` followed by names, between blanks as in
`conflict gcc intel` or in parentheses as in `conflict("gcc", "intel")`.
-/

namespace Toolchain

/-- What a module system can be asked to do. -/
inductive ModuleVerb
  | display
  | load
  | unload
  deriving DecidableEq, Repr

/-- The word for it on a command line. -/
def ModuleVerb.word : ModuleVerb → String
  | .display => "show"
  | .load => "load"
  | .unload => "unload"

instance : ToString ModuleVerb := ⟨ModuleVerb.word⟩

/-- What a module command did: what it printed and the variables that change. -/
structure ModuleEffect where
  output : String := ""
  changes : List Change := []
  deriving DecidableEq, Repr, Inhabited

/-- A module system with a state of its own: it is asked with a verb and a name in an
environment. -/
abbrev Loader (σ : Type) :=
  ModuleVerb → String → Environment → σ → Except String ModuleEffect × σ

/-! ## Conflicts -/

namespace Text

/-- A character between the names of a conflict line. -/
def endsConflictName (c : Char) : Bool :=
  isBlank c || c == '(' || c == ')' || c == ',' || c == '"' || c == '\''

/-- What follows the word `conflict` at the beginning of a line. A longer word that only
begins with it does not count. -/
def conflictPart? (line : List Char) : Option (List Char) :=
  match dropStart? "conflict".toList (trim line) with
  | some (c :: rest) => if c = '(' ∨ isBlank c then some (c :: rest) else none
  | _ => none

/-- The names of a conflict line; none for another line. -/
def conflictNames (line : List Char) : List (List Char) :=
  match conflictPart? line with
  | some rest => (pieces endsConflictName rest).filter (· ≠ [])
  | none => []

end Text

/-- The modules that a listing declares as conflicting, in order. -/
def moduleConflicts (listing : String) : List String :=
  ((Text.lines listing.toList).flatMap Text.conflictNames).map String.ofList

example : moduleConflicts " conflict a b\nconflict(\"c\", 'd')\nconflicts x\n" =
    ["a", "b", "c", "d"] := by decide +kernel

/-! ## A table of modules -/

/-- A module of a fixed module system: what each verb changes, what `show` prints, and the
verbs that fail with a message. -/
structure ModuleCard where
  listing : String := ""
  changes : ModuleVerb → List Change := fun _ => []
  failure : ModuleVerb → Option String := fun _ => none

/-- Asks a fixed module system. A module that it does not have can be unloaded without
effect; it cannot be shown or loaded. -/
def askTable (table : Dict ModuleCard) (verb : ModuleVerb) (name : String) :
    Except String ModuleEffect :=
  match table.get? name with
  | none =>
    match verb with
    | .unload => .ok {}
    | _ => .error ("Unable to locate a modulefile for '" ++ name ++ "'")
  | some card =>
    match card.failure verb with
    | some message => .error message
    | none =>
      .ok { output := if verb = .display then card.listing else "", changes := card.changes verb }

/-- The calls that a loader was asked, the latest first. -/
abbrev ModuleCalls := List (ModuleVerb × String)

/-- A fixed module system that remembers what it was asked. -/
def tableLoader (table : Dict ModuleCard) : Loader ModuleCalls :=
  fun verb name _ calls => (askTable table verb name, (verb, name) :: calls)

end Toolchain
