import Toolchain.Machine.Launch
import Toolchain.Shell.Statement

/-!
# The state of a shell

A shell is a process with variables, some of which are exported to the programs that it
starts, with functions, and with arguments. What it inherited under a name that no variable
can have is handed on as it is.

A statement ends in a `Flow`: the next one follows, or a loop, a function or the shell is
left.
-/

namespace Toolchain.Shell

/-! ## Variables -/

/-- A variable. One that is exported before it has a value has none. -/
structure Variable where
  value : Option String := none
  exported : Bool := false
  deriving DecidableEq, Repr, Inhabited

/-- How a statement ends. -/
inductive Flow
  | next
  | exit
  | returned
  | leftLoop (levels : Nat)
  | nextRound (levels : Nat)
  | killed (signal : Nat)
  /-- It does not end. -/
  | unending
  deriving DecidableEq, Repr

/-- A running shell. `process.env` holds what is handed on without being a variable. -/
structure State where
  process : Process
  dialect : ShellDialect
  name : String
  args : List String := []
  vars : Dict Variable := ∅
  functions : Dict Statement := ∅
  status : Nat := 0
  /-- The line of the statement that runs. -/
  line : Nat := 1
  /-- Whether the script was given as an argument. -/
  inArgument : Bool := false
  /-- What runs when the shell ends. -/
  atExit : Option String := none
  /-- How many loops the statement that runs is in. -/
  loops : Nat := 0
  /-- Whether there is a function to return from. -/
  inFunction : Bool := false
  /-- Whether a command that fails ends the shell. -/
  exitOnError : Bool := false
  /-- Whether a parameter without a value is an error. -/
  strict : Bool := false
  /-- Whether somebody looks at the status, so that a failure ends nothing. -/
  checked : Bool := false
  /-- The status of the last command substitution of the statement that runs. -/
  substituted : Option Nat := none
  /-- How a command substitution of the statement ended, if it took the shell with it. -/
  interrupted : Option Flow := none
  /-- The variables that the function that runs has made local, as they were before. -/
  locals : List (String × Option Variable) := []
  deriving Inhabited

namespace State

/-- Who speaks in messages. -/
def voice (s : State) : Voice := .shell s.dialect s.name s.line

/-- The wording of this dialect. -/
def wording {α : Type} (s : State) (standard bash : α) : α :=
  match s.dialect with
  | .standard => standard
  | .bash => bash

/-- Prints a message. -/
def report (s : State) (message : String) : State :=
  { s with process := s.process.report s.voice message }

/-- The value of a variable. -/
def get? (s : State) (name : String) : Option String :=
  (s.vars.get? name).bind Variable.value

/-- Gives a variable a value; an exported one stays exported. -/
def set (s : State) (name value : String) : State :=
  let exported := ((s.vars.get? name).map Variable.exported).getD false
  { s with vars := s.vars.insert name ⟨some value, exported⟩ }

/-- Exports a variable. -/
def exportName (s : State) (name : String) : State :=
  let v : Variable := ⟨(s.vars.get? name).bind Variable.value, true⟩
  { s with vars := s.vars.insert name v }

/-- Takes a variable away. -/
def unset (s : State) (name : String) : State :=
  { s with vars := s.vars.erase name }

/-- The environment that a program gets. -/
def environment (s : State) : Environment :=
  s.vars.toList.foldl (fun env e =>
    match e.2 with
    | ⟨some value, true⟩ => env.insert e.1 value
    | _ => env) s.process.env

/-- Sets the status. -/
def withStatus (s : State) (status : Nat) : State := { s with status }

/-- Goes on in the state of a part that ran for itself: only what it did to the machine, and
its status, stay. -/
def joinPart (s part : State) : State :=
  { s with process := { s.process with machine := part.process.machine }, status := part.status }

theorem get?_set_self (s : State) (name value : String) :
    (s.set name value).get? name = some value := by
  simp [set, get?]

theorem get?_set_ne (s : State) {name other : String} (h : other ≠ name) (value : String) :
    (s.set name value).get? other = s.get? other := by
  simp [set, get?, Dict.get?_insert_ne h]

end State

/-- How a program ends that is a shell which ends so. -/
def Flow.ending (status : Nat) : Flow → Ending
  | .killed signal => .killed signal
  | .unending => .unending
  | _ => .exited status

end Toolchain.Shell
