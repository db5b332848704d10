import Toolchain.Compiler
import Toolchain.Data.Toml
import Toolchain.Files.Tree

/-!
# Compilers files

A compilers file is a TOML document with one `[[compiler]]` table for each compiler. The
project has one, and so has the user; the first that is there is used, and a path that is
given overrides both.

All compilers of a file are built, or none: the first record that cannot be is the error,
with its position.
-/

namespace Toolchain

namespace Config

/-! ## Errors -/

/-- Why a file gives no compilers. -/
inductive Fault
  /-- The file could not be read. -/
  | unreadable (path : Path) (fault : FileFault)
  /-- The text is no document. -/
  | malformed (path : Option Path)
  /-- The document does not hold records. -/
  | unfit (path : Option Path) (fault : DecodeFault)
  /-- A record is no compiler; positions count from one. -/
  | entry (position : Nat) (spec : String) (error : CompilerError)
  deriving DecidableEq, Repr

namespace Fault

/-- What is said about the file that could not be used. -/
def fileMessage : Fault → Option String
  | unreadable path _ => some ("failed to read compiler config: " ++ path.text)
  | malformed (some path) => some ("failed to parse compiler config: " ++ path.text)
  | unfit (some path) _ => some ("failed to parse compiler config: " ++ path.text)
  | _ => none

/-- What is said about the entry that is wrong. -/
def entryMessage (position : Nat) (spec : String) : String :=
  "compiler entry #" ++ toString position ++ " (`" ++ spec ++ "`)"

end Fault

/-! ## Reading -/

/-- How a document is decoded: a list of records under `compiler`, which may be absent. -/
def shape : Decoder.Shape (List Record) where
  name := "CompilersConfig"
  fields := ["compiler"]
  required := 0
  start := []
  take dialect records key d :=
    match key with
    | "compiler" => Decoder.sequence (Record.decode dialect) d
    | _ => .ok records

/-- The records of a document; the path is only for the error. -/
def parseAs (path : Option Path) (text : String) : Except Fault (List Record) :=
  match Toml.read? text with
  | none => .error (.malformed path)
  | some d =>
    match shape.decode .toml d with
    | .error fault => .error (.unfit path fault)
    | .ok records => .ok records

/-- The records of a document. -/
def parse (text : String) : Except Fault (List Record) := parseAs none text

/-- Builds the compilers of records, of which the first is at a position. -/
def compilersFrom : Nat → List Record → Except Fault (List Compiler)
  | _, [] => .ok []
  | position, r :: rest =>
    match Compiler.ofRecord r with
    | .error e => .error (.entry position r.spec e)
    | .ok c => (compilersFrom (position + 1) rest).map (c :: ·)

/-- Builds every compiler of a file. -/
def compilers (records : List Record) : Except Fault (List Compiler) := compilersFrom 1 records

/-- The records of a file. -/
def load (t : FileTree) (cwd : Place) (path : Path) : Except Fault (List Record) :=
  match t.readText cwd path with
  | .error fault => .error (.unreadable path fault)
  | .ok text => parseAs (some path) text

/-! ## Finding the file -/

/-- The name of the file below a project or a home directory. -/
def fileIn (dir : Path) : Path := (dir.join ⟨".compilerkit"⟩).join ⟨"compilers.toml"⟩

/-- The home directory. -/
def home (env : Environment) : Path :=
  match env.get? "HOME" with
  | some dir => if dir = "" then ⟨"/root"⟩ else ⟨dir⟩
  | none => ⟨"/root"⟩

/-- The file to use. A path that is given is used whether it is there or not. -/
def find (t : FileTree) (cwd : Place) (env : Environment) (dir : Path) (explicit : Option Path) :
    Option Path :=
  match explicit with
  | some path => some path
  | none => [fileIn dir, fileIn (home env)].find? (t.isFile cwd)

end Config

end Toolchain
