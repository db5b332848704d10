import Toolchain.Command
import Toolchain.Compiler
import Toolchain.Files.Tree
import Toolchain.Library
import Toolchain.LinkLine

/-!
# Probing for implicit directories

A driver adds the directories of its runtime libraries to every link. To learn them a small
program is compiled in the compiler's own environment with the flag that makes the driver
show its link line; of the directories on that line those are kept that hold one of the
compiler's runtime libraries.

The probe is tolerant: a compiler that has no C and no C++ executable, that has no such
flag, or that cannot be started gives no output, and a failing compile still gives what was
printed. Only an environment that cannot be activated is an error.

## What is modelled

`Surroundings` gathers what a probe meets: the module system, what runs commands, and the
files, with a place for the small program.

  * `output` — what the driver prints; at most one command is run, in a scope of its own.
  * `implicit`, `all` — the directories for a link.
-/

namespace Toolchain

/-- What a probe meets outside its own process. -/
structure Surroundings (σ : Type) where
  loader : Loader σ
  runner : Runner σ
  /-- Makes a directory with a source file in it; answers the directory, or what is logged
  if that is not possible. -/
  prepare : (fileName source : String) → Environment → σ → Except String Path × σ
  /-- Takes the directory away. -/
  discard : Path → σ → σ
  files : σ → FileTree
  cwd : σ → Place
  /-- How directories are searched. -/
  glob : Glob := .plain

namespace Probe

variable {σ : Type}

/-! ## The command -/

/-- The program that is compiled. -/
def dummySource : String :=
  "int main(int argc, char* argv[]) \x7b (void)argc; (void)argv; return 0; \x7d\n"

/-- How many milliseconds the compile may take if nothing else is said. -/
def defaultTimeout : Nat := 60000

/-- The executable that is probed: the C compiler, else the C++ compiler. -/
def role? (c : Compiler) : Option (Role × Path) :=
  [Role.cc, Role.cxx].findSome? fun r => (c.paths.get r).map (r, ·)

/-- The name of the source file for a role. -/
def sourceName : Role → String
  | .cc => "main.c"
  | _ => "main.cc"

/-- The words of the user's flags for a compile and link without extra libraries. -/
def flagWords (c : Compiler) (r : Role) : List String :=
  [r.compileCategory, .cppflags, .ldflags].flatMap fun category => arguments (c.flags.get category)

/-- The command that compiles the program in a directory. -/
def command (c : Compiler) (r : Role) (executable : Path) (verboseFlag : String) (dir : Path)
    (timeout : Nat) : Command where
  program := executable
  arguments := flagWords c r
    ++ [verboseFlag, (dir.join ⟨sourceName r⟩).text, "-o", (dir.join ⟨"output"⟩).text]
  timeout := some timeout

/-! ## Running it -/

/-- The log line about a failing compile. -/
def failureNote (c : Compiler) (command : Command) (o : CommandOutput) : List LogLine :=
  if o.succeeded then []
  else
    [⟨.debug, c.label ++ ": `" ++ command.text ++ "` exited with " ++ o.codeText
      ++ "; parsing its output anyway"⟩]

/-- Runs a command in the session's environment; a failure to do so is only logged. -/
def runCommand (w : Surroundings σ) (c : Compiler) (command : Command) (s : Session σ) :
    Option String × Session σ :=
  let s := match w.runner.announce command with
    | some text => s.debug text
    | none => s
  match w.runner.run command s.env s.outside with
  | (.error message, outside) =>
    (none, { s with outside }.debug (c.label ++ ": probe failed: " ++ message))
  | (.ok o, outside) =>
    (some o.combined, { s with outside, log := failureNote c command o ++ s.log })

/-- Activates the compiler's environment, runs the command in it and closes the scope. -/
def runScoped (w : Surroundings σ) (c : Compiler) (command : Command) (s : Session σ) :
    Except CompilerError (Option String) × Session σ :=
  match c.activation.enter w.loader s with
  | (.error e, s) => (.error e, s)
  | (.ok guard, s) =>
    let (printed, s) := runCommand w c command s
    (.ok printed, s.leave guard)

/-- What the driver prints when it compiles the program. -/
def output (w : Surroundings σ) (timeout : Nat) (c : Compiler) (s : Session σ) :
    Except CompilerError (Option String) × Session σ :=
  match role? c, c.verboseFlag with
  | none, _ => (.ok none, s.debug (c.label ++ ": no C or C++ compiler to probe"))
  | some _, none => (.ok none, s.debug (c.label ++ ": no verbose flag, skipping probe"))
  | some (r, executable), some flag =>
    match w.prepare (sourceName r) dummySource s.env s.outside with
    | (.error message, outside) =>
      (.ok none, { s with outside }.debug (c.label ++ ": " ++ message))
    | (.ok dir, outside) =>
      let (answer, s) :=
        runScoped w c (command c r executable flag dir timeout) { s with outside }
      (answer, { s with outside := w.discard dir s.outside })

/-! ## Directories -/

/-- Libraries that every compiler may bring along. -/
def commonLibs : List String := ["libc", "libc++", "libstdc++"]

/-- The runtime libraries of a compiler. -/
def runtimeLibs (c : Compiler) : List String := c.family.requiredLibs ++ commonLibs

/-- The directories on a link line that hold a runtime library, in path order. -/
def implicitDirs (t : FileTree) (cwd : Place) (c : Compiler) (printed : String)
    (glob : Glob := .plain) : List Path :=
  t.dirsWithLibrary cwd (linkDirs printed) (runtimeLibs c) glob

/-- The log line about them. -/
def dirsNote (c : Compiler) (printed : String) (dirs : List Path) : String :=
  c.label ++ ": " ++ toString (linkDirs printed).length ++ " link dirs, "
    ++ toString dirs.length ++ " implicit rpaths"

/-- The directories that the driver adds by itself; none where discovery is turned off. -/
def implicit (w : Surroundings σ) (timeout : Nat) (c : Compiler) (s : Session σ) :
    Except CompilerError (List Path) × Session σ :=
  if c.discovers then
    match output w timeout c s with
    | (.error e, s) => (.error e, s)
    | (.ok none, s) => (.ok [], s)
    | (.ok (some printed), s) =>
      let dirs := implicitDirs (w.files s.outside) (w.cwd s.outside) c printed w.glob
      (.ok dirs, s.debug (dirsNote c printed dirs))
  else (.ok [], s)

/-- The extra directories of a compiler, then the implicit ones, each once. -/
def allDirs (c : Compiler) (implicit : List Path) : List Path :=
  Path.unique (c.extraRpaths ++ implicit)

/-- All directories for a link. -/
def all (w : Surroundings σ) (timeout : Nat) (c : Compiler) (s : Session σ) :
    Except CompilerError (List Path) × Session σ :=
  match implicit w timeout c s with
  | (.error e, s) => (.error e, s)
  | (.ok dirs, s) => (.ok (allDirs c dirs), s)

end Probe

end Toolchain
