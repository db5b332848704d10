import Toolchain.Dict
import Toolchain.Path
import Toolchain.Environment.Variables

/-!
# Commands

A command is a program with its arguments and perhaps a time limit. A *runner* stands for
whatever runs commands: it sees the environment and has a state of its own. A command that
ran has an output, also if it failed or was killed; only one that could not be started, or
took too long, is an error.
-/

namespace Toolchain

/-- A program, its arguments, and how many milliseconds it may take. -/
structure Command where
  program : Path
  arguments : List String
  timeout : Option Nat := none
  deriving DecidableEq, Repr

/-- A command as it is shown. -/
def Command.text (c : Command) : String := joined " " (c.program.text :: c.arguments)

/-- What a command that ran has printed, and its exit code; a command that was killed by a
signal has none. -/
structure CommandOutput where
  code : Option Int
  stdout : String
  stderr : String
  deriving DecidableEq, Repr, Inhabited

namespace CommandOutput

/-- Whether the command exited with code zero. -/
def succeeded (o : CommandOutput) : Bool := o.code == some 0

/-- Both streams: standard output, then standard error. -/
def combined (o : CommandOutput) : String := o.stdout ++ o.stderr

/-- The code as it is shown in a log line. -/
def codeText (o : CommandOutput) : String :=
  match o.code with
  | some n => "Some(" ++ toString n ++ ")"
  | none => "None"

end CommandOutput

/-- What runs commands. -/
structure Runner (σ : Type) where
  /-- Runs a command in an environment. -/
  run : Command → Environment → σ → Except String CommandOutput × σ
  /-- What is logged before a command runs. -/
  announce : Command → Option String := fun _ => none

end Toolchain
