import Toolchain.Shell.Expansion

/-!
# Commands that are built in

The commands that change the shell itself: its variables, its arguments, its working
directory, and the flow of its statements. Those that run other commands are not here.
-/

namespace Toolchain.Shell

/-- A command that changes the shell. -/
abbrev Builtin := List String → State → Flow × State

namespace Builtin

/-- Ends with a status. -/
def finish (status : Nat) (s : State) : Flow × State := (.next, s.withStatus status)

/-- Ends with a status and a message about the command. -/
def fail (name : String) (status : Nat) (message : String) (s : State) : Flow × State :=
  finish status (s.report (name ++ ": " ++ message))

/-- The statuses a shell can end with. -/
def statusOf (n : Int) : Nat := (n % 256).toNat

/-! ## Flow -/

/-- Leaves the shell or a function with a status, which is the last one if none is given. -/
def leaveBy (name : String) (flow : Flow) : Builtin := fun args s =>
  match args with
  | [] => (flow, s)
  | a :: _ =>
    match a.toInt? with
    | some n => (flow, s.withStatus (statusOf n))
    | none =>
      let message := s.wording ("Illegal number: " ++ a) (a ++ ": numeric argument required")
      (.exit, (s.report (name ++ ": " ++ message)).withStatus 2)

/-- Leaves a function. -/
def returnFrom : Builtin := fun args s =>
  if s.dialect = .bash ∧ !s.inFunction then
    fail "return" 2 "can only `return' from a function or sourced script" s
  else leaveBy "return" .returned args s

/-- Leaves loops, if there are any. -/
def loopBy (name : String) (flow : Nat → Flow) : Builtin := fun args s =>
  if s.loops = 0 then
    s.wording (finish 0 s)
      (fail name 0 "only meaningful in a `for', `while', or `until' loop" s)
  else (flow (min s.loops ((args.head?.bind String.toNat?).getD 1)), s.withStatus 0)

/-- Says what runs when the shell ends. Other signals are not waited for. -/
def setTrap : Builtin := fun args s =>
  match args.filter (· ≠ "--") with
  | "-" :: _ => finish 0 { s with atExit := none }
  | action :: signals =>
    if signals.contains "EXIT" ∨ signals.contains "0" then
      finish 0 { s with atExit := some action }
    else finish 0 s
  | [] => finish 0 s

/-! ## Variables -/

/-- A name, or a name and a value. -/
def assigned (arg : String) : String × Option String :=
  match Text.cutAt '=' arg.toList with
  | some (name, value) => (String.ofList name, some (String.ofList value))
  | none => (arg, none)

/-- Whether an argument is an option. -/
def isOption (arg : String) : Bool := arg.toList.head? == some '-' && arg ≠ "-"

/-- Does something for each name, after its value is set. -/
def eachName (command : String) (f : State → String → State) : Builtin := fun args s =>
  let names := args.filter (!isOption ·)
  match names.find? fun a => !isName (assigned a).1.toList with
  | some wrong =>
    match s.dialect with
    | .standard =>
      (.exit, (s.report (command ++ ": " ++ (assigned wrong).1 ++ ": bad variable name")).withStatus 2)
    | .bash =>
      fail command 1 ("\x60" ++ wrong ++ "': not a valid identifier") s
  | none =>
    finish 0 (names.foldl (fun s a =>
      let (name, value) := assigned a
      let s := f s name
      match value with
      | some v => s.set name v
      | none => s) s)

/-- Exports variables. Functions that are exported are handed on already. -/
def exportNames : Builtin := fun args s =>
  if args.contains "-f" then finish 0 s else eachName "export" State.exportName args s

/-- Makes variables local to the function that runs. -/
def makeLocal : Builtin :=
  eachName "local" fun s name => { s with locals := (name, s.vars.get? name) :: s.locals }

/-- Takes variables or functions away. -/
def unsetNames : Builtin := fun args s =>
  let names := args.filter (!isOption ·)
  if args.contains "-f" then
    finish 0 { s with functions := names.foldl Dict.erase s.functions }
  else finish 0 (names.foldl (fun s name =>
    if (s.vars.get? name).isSome then s.unset name
    else if s.dialect = .bash ∧ !args.contains "-v" then
      { s with functions := s.functions.erase name }
    else s) s)

/-! ## Arguments and options -/

/-- Turns an option on or off. -/
def setOption (on : Bool) (s : State) (letter : Char) : State :=
  match letter with
  | 'e' => { s with exitOnError := on }
  | 'u' => { s with strict := on }
  | _ => s

/-- Sets options and arguments. -/
def setArguments : Builtin := fun args s =>
  match args with
  | [] => finish 0 s
  | a :: rest =>
    if a = "--" then finish 0 { s with args := rest }
    else
      match a.toList with
      | '-' :: c :: letters =>
        let s := (c :: letters).foldl (setOption true) s
        if rest = [] ∨ (c :: letters).contains 'o' then finish 0 s
        else setArguments rest s
      | '+' :: letters =>
        let s := letters.foldl (setOption false) s
        if rest = [] ∨ letters.contains 'o' then finish 0 s else setArguments rest s
      | _ => finish 0 { s with args := a :: rest }

/-- Drops arguments from the front. -/
def shiftArguments : Builtin := fun args s =>
  let n := (args.head?.bind String.toNat?).getD 1
  if n ≤ s.args.length then finish 0 { s with args := s.args.drop n }
  else
    match s.dialect with
    | .standard => (.exit, (s.report "shift: can't shift that many").withStatus 2)
    | .bash => finish 1 s

/-! ## The process -/

/-- Changes the working directory. -/
def changeDirectory : Builtin := fun args s =>
  let args := args.filter fun a => a ≠ "-P" ∧ a ≠ "-L" ∧ a ≠ "--"
  let old := Place.text s.process.cwd
  let dir := match args.head? with
    | none => (s.get? "HOME").getD ""
    | some "-" => (s.get? "OLDPWD").getD ""
    | some dir => dir
  if dir = "" then finish 0 s
  else
    let refused (fault : FileFault) : Flow × State :=
      s.wording (fail "cd" 2 ("can't cd to " ++ dir) s)
        (fail "cd" 1 (dir ++ ": " ++ fault.reason) s)
    match s.process.machine.files.status s.process.cwd ⟨dir⟩ with
    | .ok (place, .directory _) =>
      let s := { s with process := { s.process with cwd := place } }
      let s := (s.set "OLDPWD" old).set "PWD" (Place.text place)
      finish 0 (if args.head? = some "-" then
        { s with process := s.process.print (Place.text place ++ "\n") } else s)
    | .ok _ => refused .notDirectory
    | .error e => refused e

/-- The names of signals. -/
def signals : List (String × Nat) :=
  [("HUP", 1), ("INT", 2), ("QUIT", 3), ("ILL", 4), ("TRAP", 5), ("ABRT", 6), ("BUS", 7),
    ("FPE", 8), ("KILL", 9), ("USR1", 10), ("SEGV", 11), ("USR2", 12), ("PIPE", 13), ("ALRM", 14),
    ("TERM", 15), ("CHLD", 17), ("CONT", 18), ("STOP", 19), ("TSTP", 20), ("URG", 23),
    ("WINCH", 28)]

/-- Signals that do nothing to a process that does not wait for them. -/
def ignoredSignals : List Nat := [0, 17, 18, 23, 28]

/-- Signals that stop a process, which then waits for ever. -/
def stoppingSignals : List Nat := [19, 20, 21, 22]

/-- The number of a signal that is given by number or by name. -/
def signal? (s : String) : Option Nat :=
  match s.toNat? with
  | some n => some n
  | none =>
    let name := ((Text.dropStart? "SIG".toList s.toList).map String.ofList).getD s
    (signals.find? (·.1 = name)).map Prod.snd

/-- Sends a signal; the only process that can be reached is the shell. -/
def sendSignal : Builtin := fun args s =>
  let request : Option (Nat × List String) :=
    match args with
    | "-s" :: name :: rest => (signal? name).map (·, rest)
    | a :: rest =>
      match a.toList with
      | '-' :: c :: name => (signal? (String.ofList (c :: name))).map (·, rest)
      | _ => some (15, a :: rest)
    | [] => none
  match request with
  | none => fail "kill" 2 "bad signal or no process" s
  | some (signal, targets) =>
    match targets.find? (· ≠ toString Process.number) with
    | some other =>
      fail "kill" 1
        (s.wording "No such process" ("(" ++ other ++ ") - No such process")) s
    | none =>
      if ignoredSignals.contains signal then finish 0 s
      else if stoppingSignals.contains signal then (.unending, s)
      else (.killed signal, s)

/-- The values of variables that a line of input gives: its fields, the last variable getting
what is left. -/
def lineValues : List String → List String → List (String × String)
  | [], _ => []
  | [name], fields => [(name, joined " " fields)]
  | name :: names, fields => (name, fields.headD "") :: lineValues names (fields.drop 1)

/-- Reads a line into variables. -/
def readVariables : Builtin := fun args s =>
  let names := args.filter (!isOption ·)
  let (input, process) := s.process.takeInput
  let line := input.takeWhile (· ≠ 10)
  let rest := (input.drop line.length).drop 1
  let s := { s with process := process.returnInput rest }
  let fields := (splitGlyphs (separatorsOf s) (glyphsOf .substituted (Utf8.readLossy line))).map
    markedText
  let s := (lineValues names fields).foldl (fun s e => s.set e.1 e.2) s
  finish (if line.length < input.length then 0 else 1) s

/-! ## All of them -/

/-- A utility as a command that is built in. -/
def ofUtility (name : String) : Builtin := fun args s =>
  match Utility.find? s.voice name with
  | some run =>
    let (status, process) := run args s.process
    (.next, { s with process, status })
  | none => finish 127 s

/-- The command of a name. -/
def find? (name : String) : Option Builtin :=
  match name with
  | ":" | "umask" | "wait" | "ulimit" | "hash" => some fun _ s => finish 0 s
  | "trap" => some setTrap
  | "exit" => some (leaveBy "exit" .exit)
  | "return" => some returnFrom
  | "break" => some (loopBy "break" .leftLoop)
  | "continue" => some (loopBy "continue" .nextRound)
  | "export" => some exportNames
  | "readonly" => some (eachName "readonly" fun s _ => s)
  | "local" => some makeLocal
  | "unset" => some unsetNames
  | "set" => some setArguments
  | "shift" => some shiftArguments
  | "cd" => some changeDirectory
  | "kill" => some sendSignal
  | "read" => some readVariables
  | name => if Utility.builtinNames.contains name then some (ofUtility name) else none

/-- The commands whose assignments stay. -/
def isSpecial (name : String) : Bool :=
  [":", "exit", "return", "break", "continue", "export", "readonly", "unset", "set", "shift",
    "eval", "exec", "."].contains name

end Builtin

end Toolchain.Shell
