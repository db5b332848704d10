import Toolchain.Files.Tree

/-!
# Reading and writing files with messages

The same as in a file tree, where a failure says in words what was tried on which path.
Writing makes the directories above a file that are missing; they stay if the file itself
cannot be written.
-/

namespace Toolchain

namespace FileTree

/-- What was tried on a path, and why it failed. -/
def failure (tried : String) (p : Path) (fault : FileFault) : String :=
  tried ++ p.text ++ ": " ++ fault.message

/-- The text of a file. -/
def fetchText (t : FileTree) (cwd : Place) (p : Path) : Except String String :=
  (t.readText cwd p).mapError (failure "failed to read file: " p)

/-- The directory that has to be there before a file can be written. -/
def neededDir (p : Path) : Option Path :=
  match p.parent? with
  | some dir => if dir.text = "" then none else some dir
  | none => none

/-- Makes the directories above a file. -/
def prepareDir (t : FileTree) (cwd : Place) (p : Path) : Except String FileTree :=
  match neededDir p with
  | none => .ok t
  | some dir => (t.createDirs cwd dir).mapError (failure "failed to create directory: " dir)

/-- Writes a text to a file. -/
def storeText (t : FileTree) (cwd : Place) (p : Path) (text : String) :
    Except String Unit × FileTree :=
  match t.prepareDir cwd p with
  | .error message => (.error message, t)
  | .ok t =>
    match t.writeBytes cwd p (Utf8.write text) with
    | .error fault => (.error (failure "failed to write file: " p fault), t)
    | .ok t => (.ok (), t)

/-- Lets everybody run a file, and answers its new permission bits. -/
def markExecutable (t : FileTree) (cwd : Place) (p : Path) : Except String (Nat × FileTree) :=
  (t.makeExecutable cwd p).mapError (failure "failed to stat " p)

end FileTree

end Toolchain
