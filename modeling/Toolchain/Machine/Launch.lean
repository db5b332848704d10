import Toolchain.Machine.Utility

/-!
# Starting programs

A program is named by a path, or by a bare name that is looked up in the directories of
`PATH`. A file that is to be run is a system utility or a script whose first line names its
interpreter; the interpreter then gets the path of the script as an argument.

  * `FileTree.image` — what runs when a path is executed.
  * `FileTree.imageOf` — what runs when a program is started by name. A directory that has no
    such file is passed over, one where it may not be run is remembered, and any other fault
    ends the search.
  * `runImage` — runs it, given how a shell runs scripts.
-/

namespace Toolchain

/-- A utility and its arguments, of which the first is the name it was called by. -/
structure Image where
  utility : String
  argv : List String
  deriving DecidableEq, Repr, Inhabited

/-! ## Interpreter lines -/

/-- How much of a first line is looked at, in bytes. -/
def interpreterLineLimit : Nat := 255

/-- The interpreter that a first line names, and the one argument that may follow it. -/
def interpreterOf? (content : List UInt8) : Option (String × Option String) :=
  match content with
  | 35 :: 33 :: rest =>
    let blank (c : Char) : Bool := c == ' ' || c == '\t'
    let line := Text.trimBoth blank
      (Utf8.readLossy ((rest.take interpreterLineLimit).takeWhile (· ≠ 10))).toList
    let name := line.takeWhile (!blank ·)
    let option := (line.dropWhile (!blank ·)).dropWhile blank
    if name = [] then none
    else some (String.ofList name, if option = [] then none else some (String.ofList option))
  | _ => none

example : interpreterOf? "#! /bin/sh -e \nexit".toUTF8.toList = some ("/bin/sh", some "-e") := by
  decide +kernel

namespace FileTree

/-! ## Finding programs -/

/-- How many interpreters may be named one after the other. -/
def interpreterLimit : Nat := 5

/-- What runs when a path is executed. -/
def imageWith (t : FileTree) (cwd : Place) :
    Nat → Path → List String → Except FileFault Image
  | 0, _, _ => .error .tooManyLinks
  | fuel + 1, path, argv =>
    match t.status cwd path with
    | .error e => .error e
    | .ok (_, .utility name) => .ok ⟨name, argv⟩
    | .ok (_, .file mode content) =>
      if !runnable mode then .error .denied
      else
        match interpreterOf? content with
        | none => .error .badFormat
        | some (interpreter, option) =>
          t.imageWith cwd fuel ⟨interpreter⟩
            (interpreter :: option.toList ++ path.text :: argv.drop 1)
    | .ok _ => .error .denied

/-- What runs when a path is executed. -/
def image (t : FileTree) (cwd : Place) (path : Path) (argv : List String) :
    Except FileFault Image :=
  t.imageWith cwd interpreterLimit path argv

/-- The search path of a process that has none. -/
def defaultSearchPath : String := "/bin:/usr/bin"

/-- A name in a directory of a search path; the empty directory is the current one. -/
def nameIn (dir name : String) : String := if dir = "" then name else dir ++ "/" ++ name

/-- Whether a name is a path, which is not looked up. -/
def isPathName (name : String) : Bool := name.toList.contains '/'

/-- The paths under which a program may be found. -/
def programPaths (env : Environment) (name : String) : List String :=
  if isPathName name then [name]
  else (piecesOf ':' ((env.get? "PATH").getD defaultSearchPath)).map (nameIn · name)

/-- The first image of some paths. The fault is the one that is reported if none is left. -/
def firstImage (t : FileTree) (cwd : Place) (argv : List String) (denied : Bool)
    (last : FileFault) : List String → Except FileFault Image
  | [] => .error (if denied then .denied else last)
  | path :: rest =>
    match t.image cwd ⟨path⟩ argv with
    | .ok image => .ok image
    | .error .denied => t.firstImage cwd argv true .denied rest
    | .error .notFound => t.firstImage cwd argv denied .notFound rest
    | .error .notDirectory => t.firstImage cwd argv denied .notDirectory rest
    | .error e => .error e

/-- What runs when a program is started by name. -/
def imageOf (t : FileTree) (cwd : Place) (env : Environment) (name : String)
    (args : List String) : Except FileFault Image :=
  if (name :: args).any fun s => s.toList.contains '\x00' then .error .nulInArgument
  else if name = "" then .error .notFound
  else if !isPathName name ∧ nameLimit ≤ name.utf8ByteSize then .error .nameTooLong
  else t.firstImage cwd (name :: args) false .notFound (programPaths env name)

end FileTree

/-! ## Running programs -/

/-- How a shell runs: with its arguments, of which the first is its name. -/
abbrev Interpreter := ShellDialect → List String → Process → Ending × Process

/-- What the arguments of `env` ask for: the environment, what ends an entry, and the program
to run. -/
structure EnvRequest where
  env : Environment
  terminator : String := "\n"
  command : List String := []

/-- Reads the arguments of `env`; answers the letter of an option that it does not have. -/
def EnvRequest.read (r : EnvRequest) : List String → Except Char EnvRequest
  | [] => .ok r
  | "-i" :: rest | "-" :: rest => EnvRequest.read { r with env := ∅ } rest
  | "-0" :: rest => EnvRequest.read { r with terminator := "\x00" } rest
  | "-u" :: name :: rest => EnvRequest.read { r with env := r.env.erase name } rest
  | "--" :: rest => assignments r rest
  | arg :: rest =>
    match arg.toList with
    | '-' :: c :: _ => .error c
    | _ => assignments r (arg :: rest)
where
  /-- The assignments in front of the program. -/
  assignments (r : EnvRequest) : List String → Except Char EnvRequest
    | [] => .ok r
    | arg :: rest =>
      match Text.cutAt '=' arg.toList with
      | some (name, value) =>
        assignments { r with env := r.env.insert (String.ofList name) (String.ofList value) } rest
      | none => .ok { r with command := arg :: rest }

/-- Runs an image. The fuel bounds how often `env` runs `env`. -/
def runImageWith (interpret : Interpreter) : Nat → Image → Process → Ending × Process
  | 0, _, p => (.exited 126, p)
  | fuel + 1, image, p =>
    let args := image.argv.drop 1
    match image.utility with
    | "sh" | "dash" => interpret .standard image.argv p
    | "bash" => interpret .bash image.argv p
    | "env" =>
      match ({ env := p.env } : EnvRequest).read args with
      | .error option =>
        let (code, p) := Utility.badOption "env" 125 option args p
        (.exited code, p)
      | .ok r =>
        match r.command with
        | [] =>
          (.exited 0, r.env.toList.foldl
            (fun p e => p.print (e.1 ++ "=" ++ e.2 ++ r.terminator)) p)
        | name :: rest =>
          match p.machine.files.imageOf p.cwd r.env name rest with
          | .error e =>
            (.exited (if e = .notFound then 127 else 126),
              p.complain ("env: '" ++ name ++ "': " ++ e.reason))
          | .ok inner =>
            let (ending, q) := runImageWith interpret fuel inner { p with env := r.env }
            (ending, { q with env := p.env })
    | name =>
      match Utility.find? .program name with
      | some run =>
        let (code, p) := run args p
        (.exited code, p)
      | none => (.exited 127, p)

/-- Runs an image. -/
def runImage (interpret : Interpreter) (image : Image) (p : Process) : Ending × Process :=
  runImageWith interpret (image.argv.length + 1) image p

end Toolchain
