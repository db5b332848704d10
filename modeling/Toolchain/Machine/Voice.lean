import Toolchain.Machine.Process

/-!
# Who speaks

A utility such as `printf` is a program of its own and is built into the shells too. The
variants differ in how a message begins, in its wording, and in which escapes they read.
-/

namespace Toolchain

/-- The two shells: the plain one of the system, and the one with extensions. -/
inductive ShellDialect
  | standard
  | bash
  deriving DecidableEq, Repr, Inhabited

/-- Who runs a utility: a shell, under a name and at a line of its script, or nobody but the
program of that name. -/
inductive Voice
  | shell (dialect : ShellDialect) (name : String) (line : Nat)
  | program
  deriving DecidableEq, Repr

namespace Voice

/-- How a message begins. -/
def lead : Voice → String
  | shell .standard name line => name ++ ": " ++ toString line ++ ": "
  | shell .bash name line => name ++ ": line " ++ toString line ++ ": "
  | program => ""

/-- The wording of this variant: that of the plain shell, of the other one, or of the
program. -/
def choose {α : Type} (v : Voice) (standard bash program : α) : α :=
  match v with
  | shell .standard .. => standard
  | shell .bash .. => bash
  | .program => program

end Voice

/-- Prints a message of a utility. -/
def Process.report (p : Process) (v : Voice) (message : String) : Process :=
  p.complain (v.lead ++ message)

end Toolchain
