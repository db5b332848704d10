import Toolchain.CommandLine.Snapshot

/-!
# The program

Collects what a run looks at, runs it, and prints what it shows. A file that is there counts
as one that may be run, since its permission bits are not asked for; a compiler that is a
script is run by the shell of this library, and any other one cannot be run.
-/

namespace Toolchain.CommandLine

/-- Adds a file of the system to the tree, if it can be read. -/
def addFile (cwd : Place) (t : FileTree) (p : Path) : IO FileTree := do
  let path := p.absolute cwd
  try
    let bytes ← IO.FS.readBinFile path.text
    let place := Place.ofText path.normalize.text
    return (t.putDirs place.dropLast).put place (.file directoryMode bytes.toList)
  catch _ => return t

/-- The variables that a run looks at. -/
def readEnvironment : IO Environment := do
  let entries ← relevantVariables.filterMapM fun name => do
    return (← IO.getEnv name).map (name, ·)
  return Dict.ofList entries

/-- The machine with the files that a run looks at. -/
def readMachine (env : Environment) (cwd : Place) (args : List String) : IO Machine := do
  let bare : Machine := { files := Machine.base.putDirs cwd, cwd }
  match Request.read env args with
  | .error _ => return bare
  | .ok request =>
    let files ← (listPaths cwd env request).foldlM (addFile cwd) bare.files
    let m := { bare with files }
    let files ← (executablePaths m env request).foldlM (addFile cwd) m.files
    return { m with files }

/-- Runs the program on the system that it is started with; answers the exit code. -/
def runHere (args : List String) : IO UInt32 := do
  let env ← readEnvironment
  let cwd := Place.ofText (toString (← IO.currentDir))
  let machine ← readMachine env cwd args
  let terminal ← (← IO.getStderr).isTty
  let outcome := run machine env terminal args
  IO.print outcome.console.stdout
  IO.eprint outcome.console.stderr
  return outcome.code.toUInt32

end Toolchain.CommandLine

/-- The program. -/
def main (args : List String) : IO UInt32 := Toolchain.CommandLine.runHere args
