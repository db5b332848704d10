import Toolchain.CommandLine.Run

/-!
# What a run looks at

A run sees the machine through a file tree. So the files that it may look at have to be known
before: first those that may list compilers, and when these are known, the executables that
they name.

  * `listPaths` — the files that may list compilers, and the release file of the system.
  * `executablePaths` — the paths under which the executables of the compilers may be found.
-/

namespace Toolchain.CommandLine

/-- The variables of the environment that a run looks at. -/
def relevantVariables : List String := ["PATH", "HOME", "TMPDIR", configVariable]

/-- The files that may list compilers. -/
def listPaths (cwd : Place) (env : Environment) (r : Request) : List Path :=
  let listed := match r.action with
    | .list (some path) => [path]
    | _ =>
      match r.config with
      | some path => [path]
      | none => [Config.fileIn ⟨Place.text cwd⟩, Config.fileIn (Config.home env)]
  releasePath :: listed

/-- The compilers that a run may be about; none if the file that lists them is faulty. -/
def knownCompilers (m : Machine) (env : Environment) (r : Request) : List Compiler :=
  match (loadCompilers m env r.config).run {} with
  | (.ok compilers, _) => compilers
  | (.error _, _) => []

/-- The paths under which the executables of compilers may be found. -/
def executablePaths (m : Machine) (env : Environment) (r : Request) : List Path :=
  (knownCompilers m env r).flatMap fun c =>
    c.paths.configured.flatMap fun e => FileTree.candidates m.cwd env e.2

end Toolchain.CommandLine
