import Toolchain.Files.Glob
import Toolchain.Version

/-!
# Library files

A library `libgfortran` is in files called `libgfortran.so`, `libgfortran.a`,
`libgfortran.dylib`, `libgfortran.dll`, or `libgfortran.so.5.0.0` with any version numbers.
`FileTree.hasLibrary` says whether a directory directly holds such a file for one of several
libraries. For each library it searches the directory for names that begin with the library
and a dot, and looks at what is found; links count as what they lead to.
-/

namespace Toolchain

namespace Text

/-- Numbers with dots between them. -/
def isDottedNumbers (s : List Char) : Bool :=
  (pieces (· == '.') s).all fun part => !part.isEmpty && part.all isDigit

/-- What may follow the name of a library and a dot. -/
def isLibraryEnding (s : List Char) : Bool :=
  if s = "so".toList ∨ s = "a".toList ∨ s = "dylib".toList ∨ s = "dll".toList then true
  else
    match dropStart? "so.".toList s with
    | some version => isDottedNumbers version
    | none => false

end Text

/-- Whether a file name is one of a library. -/
def isLibraryFile (fileName lib : String) : Bool :=
  match Text.dropStart? (lib.toList ++ ['.']) fileName.toList with
  | some ending => Text.isLibraryEnding ending
  | none => false

namespace FileTree

/-- Whether a path that a search found is a file of a library. -/
def foundLibrary (t : FileTree) (cwd : Place) (lib : String) : Except FileFault Path → Bool
  | .error _ => false
  | .ok p =>
    t.isFile cwd p &&
      match p.fileName? with
      | some name => isLibraryFile name lib
      | none => false

/-- Whether a directory holds a library file of one of the libraries. -/
def hasLibrary (t : FileTree) (cwd : Place) (dir : Path) (libs : List String)
    (glob : Glob := .plain) : Bool :=
  libs.any fun lib =>
    match glob.search t cwd (glob.escape dir.text ++ "/" ++ glob.escape lib ++ ".*") with
    | some found => found.any (t.foundLibrary cwd lib)
    | none => false

/-- The directories that hold a library file, in path order. -/
def dirsWithLibrary (t : FileTree) (cwd : Place) (dirs : List Path) (libs : List String)
    (glob : Glob := .plain) : List Path :=
  Path.collect (dirs.filter fun dir => t.isDir cwd dir && t.hasLibrary cwd dir libs glob)

end FileTree

end Toolchain
