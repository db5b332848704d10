import Toolchain.CommandLine.Console
import Toolchain.CommandLine.Options
import Toolchain.Config
import Toolchain.Data.Json
import Toolchain.Data.TomlText
import Toolchain.Detected
import Toolchain.Files.Access
import Toolchain.Files.Executable
import Toolchain.Machine.System

/-!
# Running the command line

Every action but a listing of detected packages begins with the compilers file: the one that
was named, else that of the project in the working directory, else the user's. Actions about
one compiler take the first that a query selects.

  * `loadCompilers`, `select` — the compilers of an action.
  * `listCompilers`, `describe`, `printFlags`, `verifyAll`, `printRpaths` — the actions.
  * `run` — a whole run of the program on a machine.
-/

namespace Toolchain.CommandLine

/-! ## Failures -/

/-- Why an action did not succeed. -/
inductive Failure
  | plain (message : String)
  | diagnosed (d : Diagnostic)
  deriving DecidableEq, Repr

/-- An action shows things on the console, and may fail. -/
abbrev Acting := ExceptT Failure (StateM Console)

/-- Fails with a text. -/
def giveUp {α : Type} (message : String) : Acting α := throw (.plain message)

/-- Passes an error about a compiler on. -/
def orDiagnose {α : Type} (answer : Except CompilerError α) : Acting α :=
  match answer with
  | .ok x => pure x
  | .error e => throw (.diagnosed e.diagnostic)

/-! ## Compilers -/

/-- What a failure about a compilers file is shown as. -/
def configFailure (path : Path) (fault : Config.Fault) : Failure :=
  match fault with
  | .entry position spec e =>
    let d := e.diagnostic
    .diagnosed { d with
      location := some path
      context := d.context ++ [Config.Fault.entryMessage position spec] }
  | .unreadable _ reason => .plain ((fault.fileMessage.getD "") ++ ": " ++ reason.message)
  | .malformed _ => .plain (fault.fileMessage.getD "")
  | .unfit _ reason => .plain ((fault.fileMessage.getD "") ++ ": " ++ reason.message .toml)

/-- What is said if there is no compilers file. -/
def noConfigMessage : String := "no compilers file found\nhelp: " ++ Suggestion.noConfig

/-- The compilers of the file in effect. -/
def loadCompilers (m : Machine) (env : Environment) (explicit : Option Path) :
    Acting (List Compiler) := do
  match Config.find m.files m.cwd env ⟨Place.text m.cwd⟩ explicit with
  | none => giveUp noConfigMessage
  | some path =>
    modify (·.debug ("using compilers from " ++ path.text))
    match (Config.load m.files m.cwd path).bind Config.compilers with
    | .ok compilers => pure compilers
    | .error fault => throw (configFailure path fault)

/-- The first compiler that a query selects. -/
def select (compilers : List Compiler) (query : String) : Acting Compiler := do
  match compilers.filter (·.spec.selectedBy query) with
  | [] =>
    giveUp ("compiler `" ++ query ++ "` not found\nhelp: " ++ Suggestion.unknownCompiler)
  | [c] => pure c
  | c :: others =>
    modify (·.note ⟨.info, "`" ++ query ++ "` matches " ++ toString (others.length + 1)
      ++ " compilers, using " ++ c.label⟩)
    pure c

/-! ## Actions -/

/-- The file that names the operating system. -/
def releasePath : Path := ⟨"/etc/os-release"⟩

/-- The target of every machine. -/
def machineTarget : String := "x86_64"

/-- The machine's own tags. -/
def hostOf (m : Machine) : Host :=
  Host.ofRelease (m.files.readText m.cwd releasePath).toOption machineTarget

/-- The compilers of a file of detected packages. -/
def loadDetected (m : Machine) (path : Path) : Acting (List Compiler) := do
  match m.files.fetchText m.cwd path with
  | .error message => giveUp message
  | .ok text =>
    match Json.read text with
    | .error message =>
      giveUp ("failed to parse detected packages: " ++ path.text ++ ": " ++ message)
    | .ok data =>
      let packages ← orDiagnose (DetectedPackages.ofData data)
      modify (·.noteAll (packages.logLines (hostOf m)))
      pure (packages.compilers (hostOf m))

/-- The lines of a listing about one compiler. -/
def listingLines (c : Compiler) : List String :=
  let tags := c.operatingSystem ++ (c.target.map ("-" ++ ·)).getD ""
  let roles := c.paths.configured.map fun e => e.1.key
  [c.label ++ " (" ++ tags ++ ")",
    "  roles: " ++ if roles.length = Role.all.length then "all" else joined ", " roles]

/-- Lists compilers. -/
def listCompilers (compilers : List Compiler) : Acting Unit :=
  modify (·.sayAll (if compilers = [] then ["No compilers found"]
    else compilers.flatMap listingLines))

/-- A part of a description under a title, if there is anything to say. -/
def titled (title : String) (lines : List String) : List String :=
  if lines = [] then [] else "" :: title :: lines.map ("  " ++ ·)

/-- The lines of an environment. -/
def environmentLines (m : Mutation) : List String :=
  match m.data with
  | .table entries =>
    if m.isEmpty then [] else (linesOf (Toml.write true entries)).filter (· ≠ "")
  | _ => []

/-- Everything about a compiler. -/
def describe (c : Compiler) : List String :=
  [c.label, "  family:           " ++ c.family.name,
    "  operating system: " ++ c.operatingSystem]
  ++ (c.target.map ("  target:           " ++ ·)).toList
  ++ ["  verbose flag:     " ++ c.verboseFlag.getD "none"]
  ++ titled "Paths:" (Role.all.map fun r =>
    padRight 4 r.key ++ " " ++ ((c.paths.get r).map Path.text).getD "none")
  ++ titled "Flags:" ((Category.all.filter (c.flags.get · ≠ [])).map fun category =>
    padRight 9 category.name ++ " " ++ joined " " (c.flags.get category))
  ++ titled "Modules:" c.modules
  ++ titled "Environment:" (environmentLines c.environment)

/-- The line about a property, and what is logged if there is no flag for it. -/
def propertyLine (c : Compiler) (p : Property) : String × List LogLine :=
  let line (text : String) : String := "  " ++ padRight 8 p.name ++ " " ++ text
  match c.flag p with
  | .ok flag => (line (if flag = "" then "(default)" else flag), [])
  | .error e => (line "unsupported", [⟨.debug, e.message⟩])

/-- Prints the flags of a compiler. -/
def printFlags (c : Compiler) : Acting Unit := do
  let invocations := c.paths.configured.map fun e =>
    "  " ++ padRight 4 e.1.key ++ " " ++ joined " " (c.invocationFlags e.1)
  modify (·.sayAll (("# Invocation flags for `" ++ c.label ++ "`:") :: invocations
    ++ ["", "# Capabilities:"]))
  for p in Property.all do
    let (line, log) := propertyLine c p
    modify fun console => (console.noteAll log).say line

/-- Prints the flag for a property. -/
def printFlag (c : Compiler) (name : String) : Acting Unit := do
  match Property.ofName? name with
  | none => giveUp (Property.unknownMessage name)
  | some p =>
    let flag ← orDiagnose (c.flag p)
    modify (·.say flag)

/-- Shows whether the executables of a compiler can be run; answers how many compilers
failed so far. -/
def verifyOne (m : Machine) (env : Environment) (c : Compiler) (failed : Nat) : Acting Nat := do
  match c.verify m.files m.cwd env with
  | .ok _ =>
    modify (·.say (padLeft 12 "ok" ++ " " ++ c.label))
    pure failed
  | .error e =>
    modify fun console =>
      (console.say (padLeft 12 "FAILED" ++ " " ++ c.label)).emit
        { e.diagnostic with severity := .warning }
    pure (failed + 1)

/-- Checks the executables of compilers. -/
def verifyAll (m : Machine) (env : Environment) (compilers : List Compiler) : Acting Unit := do
  modify (·.noteAll (compilers.flatMap (·.verifyLines m.files m.cwd env)))
  let failed ← compilers.foldlM (fun failed c => verifyOne m env c failed) 0
  if failed ≠ 0 then
    giveUp (toString failed ++ " of " ++ toString compilers.length
      ++ " compilers failed verification")

/-- Prints paths line by line, except those that are among the ones printed before. -/
def printEach (printed : List Path) : List Path → Acting Unit
  | [] => pure ()
  | p :: rest => do
    if printed.any (·.same p) then printEach printed rest
    else
      modify (·.say p.text)
      printEach (printed ++ [p]) rest

/-- Prints the library directories of a compiler, after probing it. -/
def printRpaths {σ : Type} (w : Surroundings σ) (c : Compiler) (implicitOnly : Bool)
    (seconds : Nat) (s : Session σ) : Acting Unit := do
  let (answer, session) := Probe.implicit w (seconds * 1000) c s
  modify (·.noteAll session.log.reverse)
  let implicit ← orDiagnose answer
  modify (·.debug (c.label ++ ": " ++ toString implicit.length ++ " implicit rpaths"))
  let extra := if implicitOnly then [] else c.extraRpaths
  printEach [] (extra ++ implicit)

/-- Does what a request asks for. -/
def perform (m : Machine) (env : Environment) (r : Request) : Acting Unit := do
  match r.action with
  | .list (some path) => listCompilers (← loadDetected m path)
  | .list none => listCompilers (← loadCompilers m env r.config)
  | .display query =>
    let c ← select (← loadCompilers m env r.config) query
    modify (·.sayAll (describe c))
  | .flags query property =>
    let c ← select (← loadCompilers m env r.config) query
    match property with
    | some name => printFlag c name
    | none => printFlags c
  | .verify query =>
    let compilers ← loadCompilers m env r.config
    match query with
    | some query => verifyAll m env [← select compilers query]
    | none => verifyAll m env compilers
  | .rpaths query implicitOnly seconds =>
    let c ← select (← loadCompilers m env r.config) query
    printRpaths Machine.surroundings c implicitOnly seconds (.start env m)

/-! ## The program -/

/-- The name and the version of the program. -/
def versionText : String := "compilerkit 0.1.0"

/-- How the program is used. -/
def usageText : String :=
  "Usage: compilerkit [OPTIONS] <COMMAND>\n\nCommands:\n  list\n  show\n  flags\n  verify\n  rpaths"

/-- The exit code and the console of a run. -/
structure Outcome where
  code : Nat
  console : Console
  deriving DecidableEq, Repr

/-- Runs the program. -/
def run (m : Machine) (env : Environment) (terminal : Bool) (args : List String) : Outcome :=
  match Request.read env args with
  | .error .usage => ⟨2, ({} : Console).complain "unexpected arguments"⟩
  | .error .version => ⟨0, ({} : Console).say versionText⟩
  | .error .help => ⟨0, ({} : Console).say usageText⟩
  | .ok r =>
    let console : Console :=
      { verbose := r.verbose, logColour := !r.plain, terminal := terminal && !r.plain }
    match (perform m env r).run console with
    | (.ok _, console) => ⟨0, console⟩
    | (.error (.plain message), console) => ⟨1, console.complain message⟩
    | (.error (.diagnosed d), console) => ⟨1, console.emit d⟩

end Toolchain.CommandLine
