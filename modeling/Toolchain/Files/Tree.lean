import Toolchain.Dict
import Toolchain.Files.Fault
import Toolchain.Path
import Toolchain.Text.Utf8

/-!
# File trees

A file tree is a file system as a value: what there is at each absolute path. A path is
followed from the root or the working directory one piece at a time. A symbolic link on the
way is replaced by its target, at most forty times; `.` and the empty piece stay where they
are, and `..` goes to the directory that holds the current one. So every piece but the last
has to be a directory, and so has the last one if a separator follows it.

  * `FileTree.locate` — where a path leads: to something that is there, or to a name that is
    free in a directory that is there.
  * `isDir`, `isFile`, `list`, `read?` — questions.
  * `write`, `createDirs`, `makeExecutable` — changes.

The user is the superuser: nothing is denied except running what has no execute bit.
-/

namespace Toolchain

/-! ## Nodes -/

/-- What can be at a place. -/
inductive Node
  | directory (mode : Nat)
  | file (mode : Nat) (content : List UInt8)
  | link (target : String)
  /-- A program that comes with the system. -/
  | utility (name : String)
  /-- A device that reads as empty and keeps nothing. -/
  | sink
  deriving DecidableEq, Repr, Inhabited

/-- The permission bits of a new directory. -/
def directoryMode : Nat := 0o755

/-- The permission bits of a new file. -/
def fileMode : Nat := 0o644

/-- The bits that let somebody run a file. -/
def runBits : Nat := 0o111

/-- Whether somebody may run a file with these permission bits. -/
def runnable (mode : Nat) : Bool := mode &&& runBits != 0

/-- A place in the tree: the names on the way from the root, without links, `.` and `..`. -/
abbrev Place := List String

namespace Place

/-- A place as an absolute path. -/
def text (p : Place) : String := "/" ++ joined "/" p

/-- The place of an absolute path without links, `.` and `..`. -/
def ofText (s : String) : Place := (piecesOf '/' s).filter (· ≠ "")

end Place

/-- A file system: what is at each place but the root, which is a directory. -/
structure FileTree where
  nodes : Dict Node := ∅
  deriving DecidableEq, Inhabited

namespace FileTree

/-- What is at a place. -/
def node? (t : FileTree) (p : Place) : Option Node :=
  match p with
  | [] => some (.directory directoryMode)
  | p => t.nodes.get? (Place.text p)

/-- Puts something at a place. -/
def put (t : FileTree) (p : Place) (n : Node) : FileTree := ⟨t.nodes.insert (Place.text p) n⟩

/-- Puts a directory at a place and at those above it, where there is nothing. -/
def putDirs (t : FileTree) (p : Place) : FileTree :=
  (List.range p.length).foldl
    (fun t i =>
      let above := p.take (i + 1)
      if (t.node? above).isSome then t else t.put above (.directory directoryMode)) t

/-! ## Following paths -/

/-- Where a path leads. -/
inductive Located
  | there (place : Place) (node : Node)
  | vacant (parent : Place) (name : String)
  deriving DecidableEq, Repr

/-- How many links may be followed on one path. -/
def linkLimit : Nat := 40

/-- The length from which on a name is too long, in bytes. -/
def nameLimit : Nat := 256

/-- The length from which on a path is too long, in bytes. -/
def pathLimit : Nat := 4096

/-- Where a target starts from: the root if it is absolute. -/
def baseOf (here : Place) (target : String) : Place :=
  if (Path.mk target).isAbsolute then [] else here

/-- Follows the pieces that are left. `followLast` says whether a link at the end counts as
what it leads to. -/
def follow (t : FileTree) (followLast : Bool) (links : Nat) (here : Place)
    (todo : List String) : Except FileFault Located :=
  match todo with
  | [] =>
    match t.node? here with
    | some n => .ok (.there here n)
    | none => .error .notFound
  | name :: rest =>
    match t.node? here with
    | some (.directory _) =>
      if name = "" ∨ name = "." then t.follow followLast links here rest
      else if name = ".." then t.follow followLast links here.dropLast rest
      else if nameLimit ≤ name.utf8ByteSize then .error .nameTooLong
      else
        match t.node? (here ++ [name]) with
        | none =>
          if rest.all (· = "") then .ok (.vacant here name) else .error .notFound
        | some (.link target) =>
          if rest = [] ∧ followLast = false then .ok (.there (here ++ [name]) (.link target))
          else
            match links with
            | 0 => .error .tooManyLinks
            | links + 1 =>
              t.follow followLast links (baseOf here target) (piecesOf '/' target ++ rest)
        | some _ => t.follow followLast links (here ++ [name]) rest
    | some _ => .error .notDirectory
    | none => .error .notFound
termination_by (links, todo.length)

/-- Where a path leads from a working directory. -/
def locate (t : FileTree) (followLast : Bool) (cwd : Place) (p : Path) :
    Except FileFault Located :=
  if '\x00' ∈ p.text.toList then .error .nulInName
  else if p.text = "" then .error .notFound
  else if pathLimit ≤ p.text.utf8ByteSize then .error .nameTooLong
  else t.follow followLast linkLimit (baseOf cwd p.text) (piecesOf '/' p.text)

/-! ## Questions -/

/-- What a path leads to. -/
def status (t : FileTree) (cwd : Place) (p : Path) : Except FileFault (Place × Node) :=
  match t.locate true cwd p with
  | .error e => .error e
  | .ok (.vacant ..) => .error .notFound
  | .ok (.there place n) => .ok (place, n)

/-- Whether a path leads to a directory. -/
def isDir (t : FileTree) (cwd : Place) (p : Path) : Bool :=
  match t.status cwd p with
  | .ok (_, .directory _) => true
  | _ => false

/-- Whether a path leads to a regular file. -/
def isFile (t : FileTree) (cwd : Place) (p : Path) : Bool :=
  match t.status cwd p with
  | .ok (_, .file ..) => true
  | .ok (_, .utility _) => true
  | _ => false

/-- Whether a path leads to a regular file that may be run. -/
def isRunnable (t : FileTree) (cwd : Place) (p : Path) : Bool :=
  match t.status cwd p with
  | .ok (_, .file mode _) => runnable mode
  | .ok (_, .utility _) => true
  | _ => false

/-- The name of a direct child of a place. -/
def childName? (parent : Place) (key : String) : Option String :=
  match (Place.ofText key).reverse with
  | name :: above => if above.reverse = parent then some name else none
  | [] => none

/-- The names in the directory that a path leads to, in order; none if it is not one. -/
def list (t : FileTree) (cwd : Place) (p : Path) : List String :=
  match t.status cwd p with
  | .ok (place, .directory _) => t.nodes.keys.filterMap (childName? place)
  | _ => []

/-- What a system program reads as: a few bytes that are no text. -/
def machineCode : List UInt8 := [0x7F, 0x45, 0x4C, 0x46, 0xFF]

/-- The bytes of a file. -/
def readBytes (t : FileTree) (cwd : Place) (p : Path) : Except FileFault (List UInt8) :=
  match t.status cwd p with
  | .error e => .error e
  | .ok (_, .directory _) => .error .isDirectory
  | .ok (_, .file _ content) => .ok content
  | .ok (_, .utility _) => .ok machineCode
  | .ok (_, .sink) => .ok []
  | .ok (_, .link _) => .error .tooManyLinks

/-- The text of a file. -/
def readText (t : FileTree) (cwd : Place) (p : Path) : Except FileFault String :=
  match t.readBytes cwd p with
  | .error e => .error e
  | .ok bytes =>
    match Utf8.read? bytes with
    | some s => .ok s
    | none => .error .notText

/-! ## Changes -/

/-- Writes a file, new or over an old one; its permission bits stay. A path that ends in a
separator cannot name a file. -/
def writeBytes (t : FileTree) (cwd : Place) (p : Path) (content : List UInt8) :
    Except FileFault FileTree :=
  match t.locate true cwd p with
  | .error e => .error e
  | .ok found =>
    if p.text.toList.getLast? = some '/' then .error .isDirectory
    else
      match found with
      | .vacant parent name => .ok (t.put (parent ++ [name]) (.file fileMode content))
      | .there place (.file mode _) => .ok (t.put place (.file mode content))
      | .there place (.utility _) => .ok (t.put place (.file directoryMode content))
      | .there _ (.directory _) => .error .isDirectory
      | .there _ .sink => .ok t
      | .there _ (.link _) => .error .tooManyLinks

/-- Makes one directory where nothing is. -/
def createDir (t : FileTree) (cwd : Place) (p : Path) : Except FileFault FileTree :=
  match t.locate false cwd p with
  | .error e => .error e
  | .ok (.there ..) => .error .alreadyThere
  | .ok (.vacant parent name) => .ok (t.put (parent ++ [name]) (.directory directoryMode))

/-- Makes a directory that may be there already. -/
def ensureDir (t : FileTree) (cwd : Place) (p : Path) : Except FileFault FileTree :=
  match t.createDir cwd p with
  | .ok t => .ok t
  | .error e => if t.isDir cwd p then .ok t else .error e

/-- Makes a directory and those above it that are missing. The fuel counts the directories
above. -/
def createDirsWith (t : FileTree) (cwd : Place) : Nat → Path → Except FileFault FileTree
  | 0, _ => .error .notFound
  | fuel + 1, p =>
    if p.text = "" then .ok t
    else
      match t.ensureDir cwd p with
      | .error .notFound =>
        match p.parent? with
        | none => .error .notFound
        | some above =>
          match t.createDirsWith cwd fuel above with
          | .error e => .error e
          | .ok t => t.ensureDir cwd p
      | answer => answer

/-- Makes a directory and those above it that are missing. -/
def createDirs (t : FileTree) (cwd : Place) (p : Path) : Except FileFault FileTree :=
  t.createDirsWith cwd (p.text.length + 1) p

/-- The permission bits of a node. -/
def modeOf : Node → Nat
  | .directory mode => mode
  | .file mode _ => mode
  | .link _ => 0o777
  | .utility _ => directoryMode
  | .sink => 0o666

/-- The node with other permission bits. -/
def withMode (mode : Nat) : Node → Node
  | .directory _ => .directory mode
  | .file _ content => .file mode content
  | n => n

/-- Adds the bits that let everybody run a file, and answers the new permission bits. -/
def makeExecutable (t : FileTree) (cwd : Place) (p : Path) :
    Except FileFault (Nat × FileTree) :=
  match t.status cwd p with
  | .error e => .error e
  | .ok (place, n) =>
    let mode := modeOf n ||| directoryMode
    .ok (mode, t.put place (withMode mode n))

end FileTree

end Toolchain
