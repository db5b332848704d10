import Toolchain.Command
import Toolchain.Environment.Dump
import Toolchain.Environment.Modules

/-!
# The module system of a shell

A module system is mostly a shell function `module`. To ask it, a script is handed to a shell
that inherits the environment. To show a module, the script only prints. To load or unload
one, it dumps the environment before and after, each dump under a marker line of its own
that is ended by NUL; what the function prints goes to standard error.

  * `quoteWord` — a name as one word of the script.
  * `ModuleVerb.script` — the script.
  * `splitDumps` — the two dumps in what the script printed.
  * `shellLoader` — a loader that runs the script.
-/

namespace Toolchain

namespace ModuleScript

/-! ## The script -/

/-- A text as one word of a shell script: in single quotes, with each single quote of its own
between two quoted parts as an escaped character. -/
def quoteWord (s : List Char) : List Char :=
  '\'' :: s.flatMap (fun c => if c = '\'' then ['\'', '\\', '\'', '\''] else [c]) ++ ['\'']

/-- What stands before the first dump. -/
def beforeMarker : String := "__COMPILERKIT_ENV_BEFORE__"

/-- What stands before the second dump. -/
def afterMarker : String := "__COMPILERKIT_ENV_AFTER__"

/-- The command line that asks for something. -/
def invocation (verb : ModuleVerb) (name : String) : String :=
  "module " ++ verb.word ++ " " ++ String.ofList (quoteWord name.toList)

/-- The script that asks for something. -/
def script (verb : ModuleVerb) (name : String) : String :=
  match verb with
  | .display => invocation verb name ++ " 2>&1"
  | _ =>
    "printf '" ++ beforeMarker ++ "\\0'; env -0; " ++ invocation verb name
      ++ " >&2 || exit 1; printf '" ++ afterMarker ++ "\\0'; env -0"

/-! ## The answer -/

/-- The two dumps: what stands after the first marker, cut at the second one. -/
def splitDumps (printed : String) : Option (String × String) :=
  match Text.cutAround (beforeMarker.toList ++ [Dump.nul]) printed.toList with
  | none => none
  | some (_, rest) =>
    (Text.cutAround (afterMarker.toList ++ [Dump.nul]) rest).map
      fun (before, after) => (String.ofList before, String.ofList after)

/-- The name of a call in messages. -/
def callText (verb : ModuleVerb) (name : String) : String :=
  "`module " ++ verb.word ++ " " ++ name ++ "`"

/-- What the output of the script says. -/
def decode (verb : ModuleVerb) (name : String) (o : CommandOutput) :
    Except String ModuleEffect :=
  if !o.succeeded then .error (callText verb name ++ " failed: " ++ trimmed o.stderr)
  else
    match verb with
    | .display => .ok { output := o.stdout }
    | _ =>
      match splitDumps o.stdout with
      | none => .error (callText verb name ++ " produced no environment dump")
      | some (before, after) =>
        .ok { output := o.stderr, changes := Dump.difference before after }

end ModuleScript

/-- The module system of a shell, which is run by a runner. -/
def shellLoader {σ : Type} (shell : String) (runner : Runner σ) : Loader σ :=
  fun verb name env s =>
    let command : Command := ⟨⟨shell⟩, ["-c", ModuleScript.script verb name], none⟩
    match runner.run command env s with
    | (.error message, s) =>
      (.error ("failed to run " ++ ModuleScript.callText verb name ++ ": " ++ message), s)
    | (.ok output, s) => (ModuleScript.decode verb name output, s)

end Toolchain
