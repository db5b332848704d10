import Toolchain.Path

/-!
# Diagnostics

What a user is shown about a problem: the problem in one line, where it was found, what led
to it, and what to try next. `Diagnostic.render` is the only place that lays it out.
-/

namespace Toolchain

/-- How bad a problem is. -/
inductive Severity
  | error
  | warning
  deriving DecidableEq, Repr

/-- The word for a severity. -/
def Severity.word : Severity → String
  | .error => "error"
  | .warning => "warning"

/-- The terminal colour of a severity: bold red or bold yellow. -/
def Severity.colour : Severity → String
  | .error => "1;31"
  | .warning => "1;33"

/-- A problem with its context and suggestions. -/
structure Diagnostic where
  severity : Severity := .error
  message : String
  context : List String := []
  suggestions : List String := []
  location : Option Path := none
  deriving DecidableEq, Repr

/-- A word in a terminal colour, when colours are wanted. -/
def coloured (colour : Bool) (code word : String) : String :=
  if colour then "\x1b[" ++ code ++ "m" ++ word ++ "\x1b[0m" else word

/-- The suggestions with their numbers, from `n` on. -/
def numberedLines : Nat → List String → String
  | _, [] => ""
  | n, s :: rest => "  " ++ toString n ++ ". " ++ s ++ "\n" ++ numberedLines (n + 1) rest

/-- A diagnostic as text, every line with its end. -/
def Diagnostic.render (colour : Bool) (d : Diagnostic) : String :=
  coloured colour d.severity.colour d.severity.word ++ ": " ++ d.message ++ "\n"
    ++ (match d.location with
      | some path => "  --> " ++ path.text ++ "\n"
      | none => "")
    ++ String.join (d.context.map fun line => "  = " ++ line ++ "\n")
    ++ (if d.suggestions = [] then ""
      else "\n" ++ coloured colour "1;32" "help" ++ ": consider:\n"
        ++ numberedLines 1 d.suggestions)

/-! ## Suggestions -/

namespace Suggestion

def fixCompilerPath : String := "Point the role at an existing executable in compilers.toml"
def checkModules : String := "Run `module load <name>` in a shell to check the module exists"
def checkConfig : String := "Every [[compiler]] entry needs `spec` and `operating_system`"
def specForm : String := "Write specs as <name>@<version>, e.g. gcc@13.2.0"
def noConfig : String := "Create .compilerkit/compilers.toml or pass --config <path>"
def unknownCompiler : String := "Run `compilerkit list` to see configured compilers"

end Suggestion

end Toolchain
