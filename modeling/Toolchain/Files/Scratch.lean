import Toolchain.Environment.Variables
import Toolchain.Files.Tree

/-!
# Scratch directories

A probe needs a place for a small program. It gets a directory of its own below the
directory for temporary files, which is `TMPDIR` or `/tmp`, and the directory goes away with
everything in it when the probe is over.
-/

namespace Toolchain

namespace FileTree

/-- Takes away what is at a place and below it. -/
def removeBelow (t : FileTree) (p : Place) : FileTree :=
  ⟨t.nodes.toList.foldl
    (fun nodes e => if p.isPrefixOf (Place.ofText e.1) then nodes.erase e.1 else nodes) t.nodes⟩

/-- The directory for temporary files. -/
def temporaryDir (cwd : Place) (env : Environment) : Path :=
  (Path.mk (Place.text cwd)).join ⟨(env.get? "TMPDIR").getD "/tmp"⟩

/-- The name of a scratch directory. -/
def scratchName : Path := ⟨"compilerkit-implicit-link-info"⟩

/-- Makes a scratch directory with a file in it, or says what could not be done. -/
def openScratch (t : FileTree) (cwd : Place) (env : Environment) (fileName source : String) :
    Except String Path × FileTree :=
  let dir := (temporaryDir cwd env).join scratchName
  match t.createDir cwd dir with
  | .error e =>
    (.error ("cannot create probe directory: " ++ e.message ++ " at path " ++ shownText dir.text),
      t)
  | .ok made =>
    let file := dir.join ⟨fileName⟩
    match made.writeBytes cwd file (Utf8.write source) with
    | .error e => (.error ("failed to write file: " ++ file.text ++ ": " ++ e.message), t)
    | .ok written => (.ok dir, written)

/-- Takes a scratch directory away. -/
def closeScratch (t : FileTree) (cwd : Place) (dir : Path) : FileTree :=
  match t.status cwd dir with
  | .ok (place, _) => t.removeBelow place
  | .error _ => t

end FileTree

end Toolchain
