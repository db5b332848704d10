import Toolchain.Environment.ModuleScript
import Toolchain.Files.Scratch
import Toolchain.Probe
import Toolchain.Shell.Run

/-!
# Commands on a machine

Commands of this library run on a machine: a command becomes a process with nothing to read
and two buffers to print to. While a command with a time limit runs, the machine is looked
at every ten milliseconds; the command is ended at the first look that finds the limit
passed and the command still running.

  * `Machine.base` — the files that every machine has.
  * `Machine.systemRunner` — runs commands.
  * `Machine.surroundings` — what a probe meets on a machine: the runner, and the module
    system of the system's shell.
-/

namespace Toolchain

namespace Machine

/-! ## Files -/

/-- The files that every machine has: the utilities, a place for temporary files, and the
device that holds nothing. -/
def base : FileTree :=
  let dirs := ([["usr", "bin"], ["usr", "lib"], ["tmp"], ["root"], ["etc"], ["dev"]] :
    List Place).foldl FileTree.putDirs {}
  let links := (dirs.put ["bin"] (.link "usr/bin")).put ["lib"] (.link "usr/lib")
  let utilities := systemUtilities.foldl
    (fun t name => t.put ["usr", "bin", name] (.utility name)) links
  utilities.put ["dev", "null"] .sink

/-! ## Time -/

/-- The milliseconds between two looks at a command that runs. -/
def lookInterval : Nat := 10

/-- Whether a command that takes some time is ended for its limit. -/
def isLate (limit elapsed : Nat) : Bool :=
  (limit + lookInterval - 1) / lookInterval * lookInterval ≤ elapsed

/-- A length of time as it is shown: in the largest unit that it fills, with the fraction that
is left. -/
def timeText (milliseconds : Nat) : String :=
  if milliseconds = 0 then "0ns"
  else if milliseconds < 1000 then toString milliseconds ++ "ms"
  else
    let part := milliseconds % 1000
    let digits := ((padded { width := 3, align := .right, fill := '0' } (toString part)).toList
      |>.reverse.dropWhile (· = '0')).reverse
    toString (milliseconds / 1000) ++ (if digits = [] then "" else "." ++ String.ofList digits)
      ++ "s"

example : [0, 60, 1500, 5000].map timeText = ["0ns", "60ms", "1.5s", "5s"] := by decide +kernel

/-! ## Running commands -/

/-- Starts a command: its image and a process for it, with the buffers that it prints to. -/
def begin (m : Machine) (c : Command) (env : Environment) :
    Except FileFault (Image × Process × Nat × Nat) :=
  match m.files.imageOf m.cwd env c.program.text c.arguments with
  | .error e => .error e
  | .ok image =>
    let (out, machine) := { m with buffers := #[] }.openBuffer
    let (err, machine) := machine.openBuffer
    let channels := [(0, Channel.sink), (1, .buffer out), (2, .buffer err)]
    .ok (image, { machine, env, cwd := m.cwd, channels }, out, err)

/-- The code of an ending; one by a signal has none. -/
def codeOf : Ending → Option Int
  | .exited code => some code
  | _ => none

/-- The complaint about a command that takes too long. -/
def lateText (c : Command) (limit : Nat) : String :=
  "`" ++ c.text ++ "` timed out after " ++ timeText limit

/-- Runs a command. One that does not end passes every limit; without a limit it is reported
as ended without a code. -/
def execute (m : Machine) (c : Command) (env : Environment) :
    Except String CommandOutput × Machine :=
  match m.begin c env with
  | .error e => (.error ("failed to spawn `" ++ c.program.text ++ "`: " ++ e.message), m)
  | .ok (image, process, out, err) =>
    let (ending, after) := runImage Shell.interpret image process
    let machine := after.machine
    let output : CommandOutput :=
      ⟨codeOf ending, Utf8.readLossy (machine.printed out), Utf8.readLossy (machine.printed err)⟩
    let done := { machine with buffers := #[] }
    match c.timeout with
    | none => (.ok output, done)
    | some limit =>
      if ending = .unending ∨ isLate limit (machine.clock - m.clock) then
        (.error (lateText c limit), { done with clock := m.clock + limit })
      else (.ok output, done)

/-- Runs commands on a machine. -/
def systemRunner : Runner Machine where
  run c env m := m.execute c env
  announce c := some ("running `" ++ c.text ++ "`")

/-- The shell that has the module system. -/
def moduleShell : String := "bash"

/-- What a probe meets on a machine. -/
def surroundings : Surroundings Machine where
  loader := shellLoader moduleShell systemRunner
  runner := systemRunner
  prepare fileName source env m :=
    let (answer, files) := m.files.openScratch m.cwd env fileName source
    (answer, { m with files })
  discard dir m := { m with files := m.files.closeScratch m.cwd dir }
  files := Machine.files
  cwd := Machine.cwd

end Machine

end Toolchain
