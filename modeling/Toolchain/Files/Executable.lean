import Toolchain.Compiler
import Toolchain.Files.Tree

/-!
# Executables

A configured executable is a path or a bare name. A path of two or more components is taken
from the working directory; a bare name is looked up in the directories of `PATH`, in order.
An executable is a regular file, links followed, that somebody may run.

`Compiler.verify` checks every configured role and blames the first that fails.
-/

namespace Toolchain

namespace Path

/-- A path seen from a working directory, without the `.` in it. -/
def absolute (cwd : Place) (p : Path) : Path :=
  if p.isAbsolute then p
  else
    let names := (p.components.filter (· ≠ .current)).map Component.text
    ⟨joined "/" (("/" ++ joined "/" cwd) :: names)⟩

/-- A directory of a search path: a `~` in front stands for the home directory. -/
def expandHome (home : Option String) (p : Path) : Path :=
  match p.components, home with
  | .normal "~" :: rest, some home =>
    if home = "" then p else (Path.mk home).join ⟨joined "/" (rest.map Component.text)⟩
  | _, _ => p

end Path

namespace FileTree

/-- The paths that a configured executable may stand for, in the order in which they are
tried. -/
def candidates (cwd : Place) (env : Environment) (p : Path) : List Path :=
  if 2 ≤ p.components.length then [p.absolute cwd]
  else
    match env.get? "PATH" with
    | none => []
    | some dirs =>
      (piecesOf ':' dirs).map fun dir =>
        ((Path.mk dir).expandHome (env.get? "HOME")).join p

/-- The executable that a path or a bare name stands for. -/
def which (t : FileTree) (cwd : Place) (env : Environment) (p : Path) : Option Path :=
  ((candidates cwd env p).find? (t.isRunnable cwd)).map (·.absolute cwd)

/-- Whether there is such an executable. -/
def isExecutable (t : FileTree) (cwd : Place) (env : Environment) (p : Path) : Bool :=
  (t.which cwd env p).isSome

end FileTree

namespace Compiler

/-- The first role whose configured path is not executable, if there is one. -/
def firstInaccessible (t : FileTree) (cwd : Place) (env : Environment) (c : Compiler) :
    Option (Role × Path) :=
  c.paths.configured.find? fun e => !t.isExecutable cwd env e.2

/-- Checks that every configured executable can be run. -/
def verify (t : FileTree) (cwd : Place) (env : Environment) (c : Compiler) :
    Except CompilerError Unit :=
  match c.firstInaccessible t cwd env with
  | some (role, path) => .error (.inaccessible c.label role path)
  | none => .ok ()

/-- What is logged while a compiler is checked. -/
def verifyLines (t : FileTree) (cwd : Place) (env : Environment) (c : Compiler) : List LogLine :=
  match c.firstInaccessible t cwd env with
  | some (role, path) =>
    [⟨.debug, c.label ++ ": " ++ role.language ++ " compiler `" ++ path.text
      ++ "` is not executable"⟩]
  | none => []

end Compiler

end Toolchain
