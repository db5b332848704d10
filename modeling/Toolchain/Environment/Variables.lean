import Toolchain.Dict
import Toolchain.Text.Escape
import Toolchain.Text.Split

/-!
# Environment variables

An environment gives values to finitely many names. A name is settable if it is not empty
and has neither `=` nor NUL, a value if it has no NUL; `variableFault?` says what is wrong
with a variable, its name before its value.

A path variable holds entries between colons. To add one at either end, `withEntry` takes the
value apart and joins its entries again.

## Main statements

`variableFault?_eq_none` — a variable without fault has a settable name and value.
-/

namespace Toolchain

/-- The values of the variables that are set. -/
abbrev Environment := Dict String

/-! ## Settable variables -/

/-- A name that a variable can have. -/
def SettableName (name : String) : Prop :=
  name ≠ "" ∧ '=' ∉ name.toList ∧ '\x00' ∉ name.toList

/-- A value that a variable can have. -/
def SettableValue (value : String) : Prop := '\x00' ∉ value.toList

/-- What is wrong with a variable. -/
inductive VariableFault
  | emptyName
  | badName (name : String)
  | nulInValue (name : String)
  deriving DecidableEq, Repr

/-- A fault in words. -/
def VariableFault.message : VariableFault → String
  | emptyName => "environment variable name is empty"
  | badName name => "invalid environment variable name `" ++ shownName name ++ "`"
  | nulInValue name => "value of environment variable `" ++ name ++ "` contains NUL"

/-- What is wrong with a variable that is to get a value, or to be removed. -/
def variableFault? (name : String) (value : Option String) : Option VariableFault :=
  if name = "" then some .emptyName
  else if '=' ∈ name.toList ∨ '\x00' ∈ name.toList then some (.badName name)
  else
    match value with
    | some v => if '\x00' ∈ v.toList then some (.nulInValue name) else none
    | none => none

theorem variableFault?_eq_none {name : String} {value : Option String} :
    variableFault? name value = none ↔
      SettableName name ∧ ∀ v, value = some v → SettableValue v := by
  unfold variableFault? SettableName SettableValue
  by_cases hn : name = ""
  · simp [hn]
  · by_cases hc : '=' ∈ name.toList ∨ '\x00' ∈ name.toList
    · rcases hc with hc | hc <;> simp [hn, hc]
    · simp only [not_or] at hc
      cases value <;> simp [hn, hc]

/-! ## Path variables -/

/-- The entries of a path variable; an empty value is one empty entry. -/
def pathEntries (value : String) : List String := piecesOf ':' value

/-- Entries with a colon between them; none if one of them holds a colon itself, since it
could not be told apart from several. -/
def joinEntries? (entries : List String) : Option String :=
  if ∀ e ∈ entries, ':' ∉ e.toList then some (joined ":" entries) else none

/-- Which end of a path variable gets an entry. -/
inductive PathEnd
  | front
  | back
  deriving DecidableEq, Repr

/-- Puts an entry at an end of the others. -/
def PathEnd.add : PathEnd → String → List String → List String
  | front, entry, entries => entry :: entries
  | back, entry, entries => entries ++ [entry]

/-- The value of a path variable with one entry more. An entry that cannot be joined to the
others takes their place. -/
def withEntry (place : PathEnd) (entry : String) (old : Option String) : String :=
  (joinEntries? (place.add entry ((old.map pathEntries).getD []))).getD entry

example : withEntry .front "/p" (some "") = "/p:" ∧ withEntry .back "/p" none = "/p" := by
  decide +kernel

/-! ## Changes -/

/-- A variable with the value that it gets, or none if it is removed. -/
abbrev Change := String × Option String

/-- The environment after a change. -/
def Dict.change (env : Environment) (c : Change) : Environment :=
  match c.2 with
  | some value => env.insert c.1 value
  | none => env.erase c.1

/-- The environment after changes, the first one first. -/
def Dict.changeAll (env : Environment) (cs : List Change) : Environment :=
  cs.foldl Dict.change env

@[simp] theorem Dict.get?_change_self (env : Environment) (c : Change) :
    (env.change c).get? c.1 = c.2 := by
  unfold Dict.change
  split <;> simp_all

theorem Dict.get?_change_ne {k : String} {c : Change} (h : k ≠ c.1) (env : Environment) :
    (env.change c).get? k = env.get? k := by
  unfold Dict.change
  split <;> simp_all

end Toolchain
