import Toolchain.Diagnostic
import Toolchain.Role

/-!
# Errors about compilers

Five things can be wrong with a compiler or its record. A dummy compile that fails is not
among them: it is reported as no result.

Each error has one line of text (`message`), a code and perhaps a hint for error reports
(`code`, `hint?`), and a diagnostic for a user (`diagnostic`).
-/

namespace Toolchain

/-- What is wrong with a compiler or its record. -/
inductive CompilerError
  /-- The family, or this version of it, has no flag for what was asked. -/
  | unsupportedFlag (compiler flag reason : String)
  /-- A configured executable is missing or cannot be run. -/
  | inaccessible (compiler : String) (role : Role) (path : Path)
  /-- A module could not be loaded. -/
  | environment (compiler module message : String)
  /-- A record is malformed. -/
  | invalidConfig (message : String)
  /-- A spec could not be read. -/
  | invalidSpec (spec reason : String)
  deriving DecidableEq, Repr

namespace CompilerError

/-- The error in one line. -/
def message : CompilerError → String
  | unsupportedFlag compiler flag reason =>
    compiler ++ " does not support the " ++ flag ++ " flag: " ++ reason
  | inaccessible compiler role path =>
    role.language ++ " compiler of " ++ compiler ++ " is not accessible: " ++ path.text
  | environment compiler module message =>
    "failed to load module `" ++ module ++ "` for " ++ compiler ++ ": " ++ message
  | invalidConfig message => "invalid compiler configuration: " ++ message
  | invalidSpec spec reason => "invalid compiler spec `" ++ spec ++ "`: " ++ reason

/-- The code under which an error is reported. -/
def code : CompilerError → String
  | unsupportedFlag .. => "compilerkit::compiler::unsupported_flag"
  | inaccessible .. => "compilerkit::compiler::access"
  | environment .. => "compilerkit::compiler::environment"
  | invalidConfig .. => "compilerkit::config::invalid"
  | invalidSpec .. => "compilerkit::config::invalid_spec"

/-- The hint that goes with the code. -/
def hint? : CompilerError → Option String
  | unsupportedFlag .. =>
    some "Use a newer compiler version or a different compiler family"
  | inaccessible .. =>
    some "Fix the path in the compiler configuration or set the role to null"
  | environment .. => none
  | invalidConfig .. => none
  | invalidSpec .. => some "Compiler specs look like `gcc@13.2.0` or `clang@=17.0.6`"

/-- What a user is shown. -/
def diagnostic : CompilerError → Diagnostic
  | unsupportedFlag compiler flag reason =>
    { message := compiler ++ " does not support the " ++ flag ++ " flag"
      context := [reason]
      suggestions := ["Check `compilerkit flags " ++ compiler ++ " <flag>` for other flags"] }
  | inaccessible compiler role path =>
    { message := role.language ++ " compiler of " ++ compiler ++ " is not accessible"
      context := ["`" ++ path.text ++ "` does not exist or is not executable"]
      suggestions :=
        [Suggestion.fixCompilerPath,
         "Set `" ++ role.key ++ "` to null if " ++ compiler ++ " has no " ++ role.language
          ++ " compiler"] }
  | environment compiler module message =>
    { message := "could not set up the environment of " ++ compiler
      context := ["module `" ++ module ++ "`: " ++ message]
      suggestions := [Suggestion.checkModules] }
  | invalidConfig message =>
    { message := "invalid compiler configuration"
      context := [message]
      suggestions := [Suggestion.checkConfig] }
  | invalidSpec spec reason =>
    { message := "invalid compiler spec `" ++ spec ++ "`"
      context := [reason]
      suggestions := [Suggestion.specForm] }

end CompilerError

end Toolchain
