import Toolchain.Shell.Builtin

/-!
# Running scripts

What the statements of a script do, one case for each of them. The cases are written over an
`Evaluator`, which runs the statements inside; `run` ties the knot by the depth to which
statements, functions and programs may be nested. Loops are counted too, and one that goes
round too often counts as one that does not end.

  * `step` — the meaning of one statement in terms of those inside it.
  * `run` — `step` over itself, so a proof about `run` is an induction over the depth.
-/

namespace Toolchain.Shell

/-- Runs a statement. -/
abbrev Evaluator := Statement → State → Flow × State

/-! ## Sequences and scripts -/

/-- Runs statements one after the other. -/
def runSequence (eval : Evaluator) : List Statement → State → Flow × State
  | [], s => (.next, s)
  | c :: rest, s =>
    match eval c s with
    | (.next, s) => runSequence eval rest s
    | answer => answer

/-- A token as it is named in a message. -/
def Token.text (s : State) : Token → String
  | .endOfScript => "end of file"
  | .lineEnd => "newline"
  | .word w => s.wording "word" w
  | .reserved w | .operator w => s.wording ("\"" ++ w ++ "\"") w

/-- What the plain shell says about a script that cannot be read. -/
def plainComplaint (s : State) : ReadFault → String
  | .unclosed ')' => "end of file unexpected (expecting \")\")"
  | .unclosed '}' => "Missing '\x7d'"
  | .unclosed awaited =>
    if awaited = backquote then "EOF in backquote substitution" else "Unterminated quoted string"
  | .badLoopName => "Bad for loop variable"
  | .unexpected found expected =>
    found.text s ++ " unexpected" ++ match expected with
      | some w => " (expecting \"" ++ w ++ "\")"
      | none => ""

/-- The complaint about a script that cannot be read. One dialect quotes the line, and names
the end of a script as a line of its own. -/
def complainAbout (s : State) (script : String) (m : Misread) : State :=
  match s.dialect with
  | .standard =>
    { s with line := m.line }.report ("Syntax error: " ++ plainComplaint s m.fault)
  | .bash =>
    let name := if s.inArgument then s.name ++ ": -c" else s.name
    let place (line : Nat) : String := name ++ ": line " ++ toString line ++ ": "
    let say (text : String) (s : State) : State :=
      { s with process := s.process.complain text }
    match m.fault with
    | .unclosed awaited =>
      say (place m.line ++ "unexpected EOF while looking for matching `" ++ awaited.toString ++ "'") s
    | .badLoopName => say (place m.line ++ "syntax error near unexpected token `for'") s
    | .unexpected .endOfScript _ =>
      say (place (m.line + 1) ++ "syntax error: unexpected end of file") s
    | .unexpected found _ =>
      let line := (piecesOf '\n' script).getD (m.line - 1) ""
      say (place m.line ++ "`" ++ line ++ "'")
        (say (place m.line ++ "syntax error near unexpected token `" ++ found.text s ++ "'") s)

/-- Runs a script in this shell. -/
def runScript (eval : Evaluator) (text : String) (s : State) : Flow × State :=
  let script := readScript text
  match runSequence eval script.statements s with
  | (.next, s) =>
    match script.fault with
    | none => (.next, s)
    | some m => (.exit, (complainAbout s text m).withStatus 2)
  | answer => answer

/-- Runs a part of a script by itself and goes on. Only a signal and a part that does not end
take the whole shell with them. -/
def runApart (part : State → Flow × State) (s : State) : Flow × State :=
  match part { s with atExit := none } with
  | (.killed signal, inner) => (.killed signal, s.joinPart inner)
  | (.unending, inner) => (.unending, s.joinPart inner)
  | (_, inner) => (.next, s.joinPart inner)

/-- What a script prints, without the line ends at its end. -/
def captureOutput (eval : Evaluator) : Capture := fun script s =>
  let (id, machine) := s.process.machine.openBuffer
  let inner := { s with process := { s.process with machine }.withChannel 1 (.buffer id) }
  let (flow, after) := runApart (runScript eval script) inner
  let printed := (after.process.machine.printed id).filter (· ≠ 0)
  let kept := (printed.reverse.dropWhile (· = 10)).reverse
  (Utf8.readLossy kept,
    { (s.joinPart after).withStatus s.status with
      substituted := some after.status
      interrupted := if flow = .next then s.interrupted else some flow })

/-! ## Starting shells -/

/-- The search path of a shell that inherits none. -/
def shellSearchPath : String :=
  "/usr/local/sbin:/usr/local/bin:/usr/sbin:/usr/bin:/sbin:/bin"

/-- The name of the function that an inherited entry holds, and its definition. -/
def inheritedFunction? (name value : String) : Option (String × String) :=
  match Text.dropStart? "BASH_FUNC_".toList name.toList with
  | none => none
  | some rest =>
    match Text.dropEnd? "%%".toList rest, Text.dropStart? "() \x7b".toList value.toList with
    | some function, some _ =>
      some (String.ofList function, String.ofList function ++ " " ++ value)
    | _, _ => none

/-- The functions that a shell inherits. -/
def inheritedFunctions (env : Environment) : Dict Statement :=
  env.toList.foldl (fun functions e =>
    match inheritedFunction? e.1 e.2 with
    | none => functions
    | some (name, text) =>
      match (readScript text).statements with
      | [.define _ body] => functions.insert name body
      | _ => functions) ∅

/-- A shell that has just been started. -/
def State.start (dialect : ShellDialect) (name : String) (p : Process) : State :=
  let named (e : String × String) : Bool := isName e.1.toList
  let inherited := p.env.toList.filter named
  let others := match dialect with
    | .standard => []
    | .bash => p.env.toList.filter (!named ·)
  let s : State :=
    { process := { p with env := Dict.ofList others }
      dialect
      name
      vars := Dict.ofList (inherited.map fun e => (e.1, ⟨some e.2, true⟩))
      functions := match dialect with
        | .standard => ∅
        | .bash => inheritedFunctions p.env }
  let s := if (s.get? "PATH").isSome then s else s.set "PATH" shellSearchPath
  let s := (s.set "PWD" (Place.text p.cwd)).exportName "PWD"
  let s := (s.unset "IFS").set "IFS" " \t\n"
  match dialect with
  | .standard => s
  | .bash =>
    let level := ((s.get? "SHLVL").bind String.toNat?).getD 0
    (s.set "SHLVL" (toString (level + 1))).exportName "SHLVL"

/-- What the arguments of a shell ask for. -/
structure Invocation where
  command : Bool := false
  letters : List Char := []

/-- Reads the options of a shell. -/
def Invocation.read (i : Invocation) : List String → Invocation × List String
  | [] => (i, [])
  | arg :: rest =>
    match arg.toList with
    | ['-'] => (i, rest)
    | ['-', '-'] => (i, rest)
    | '-' :: '-' :: _ => Invocation.read i rest
    | '-' :: letters =>
      Invocation.read
        { command := i.command || letters.contains 'c', letters := i.letters ++ letters } rest
    | _ => (i, arg :: rest)

/-- Runs a script in a shell of its own. -/
def runShell (eval : Evaluator) (i : Invocation) (text : String) (s : State) :
    Ending × Process :=
  let s := i.letters.foldl (Builtin.setOption true) s
  let (flow, after) := runScript eval text { s with inArgument := i.command }
  let ending := flow.ending after.status
  match ending, after.atExit with
  | .exited status, some action =>
    match runScript eval action { after with atExit := none } with
    | (.exit, last) => (.exited last.status, last.process)
    | (.killed signal, last) => (.killed signal, last.process)
    | (_, last) => (.exited status, last.process)
  | _, _ => (ending, after.process)

/-- Runs a shell as a program. -/
def interpretBy (eval : Evaluator) : Interpreter := fun dialect argv p =>
  let called := argv.headD "sh"
  let (i, args) := ({} : Invocation).read (argv.drop 1)
  let refuse (code : Nat) (message : String) : Ending × Process :=
    (.exited code, p.complain (called ++ ": " ++ message))
  if i.command then
    match args with
    | [] =>
      match dialect with
      | .standard => refuse 2 "0: -c requires an argument"
      | .bash => refuse 2 "-c: option requires an argument"
    | text :: args =>
      runShell eval i text
        { State.start dialect (args.headD called) p with args := args.drop 1 }
  else
    match args with
    | [] =>
      let (input, p) := p.takeInput
      runShell eval i (Utf8.readLossy input) (State.start dialect called p)
    | file :: args =>
      match p.machine.files.readBytes p.cwd ⟨file⟩ with
      | .ok bytes =>
        runShell eval i (Utf8.readLossy bytes) { State.start dialect file p with args }
      | .error e =>
        match dialect with
        | .standard =>
          refuse 2 ("0: cannot open " ++ file ++ ": "
            ++ if e = .notFound then "No such file" else e.reason)
        | .bash => refuse (if e = .notFound then 127 else 126) (file ++ ": " ++ e.reason)

/-! ## Redirections -/

/-- The complaint about a file that cannot be opened. -/
def openComplaint (s : State) (kind : RedirectionKind) (path : String) (e : FileFault) : String :=
  let missing := e = .notFound ∨ e = .notDirectory
  match kind with
  | .input =>
    s.wording ("cannot open " ++ path ++ ": " ++ if missing then "No such file" else e.reason)
      (path ++ ": " ++ e.reason)
  | _ =>
    s.wording
      ("cannot create " ++ path ++ ": "
        ++ if missing then "Directory nonexistent" else e.reason)
      (path ++ ": " ++ e.reason)

/-- Opens what a redirection asks for. -/
def redirect (capture : Capture) (r : Redirection) : Expanding Unit := do
  let target ← expandText capture r.target
  let s ← get
  let opened (answer : Except FileFault Process) : Expanding Unit :=
    match answer with
    | .ok process => set { s with process }
    | .error e => refuse 1 (openComplaint s r.kind target e)
  match r.kind with
  | .input => opened (s.process.openInput r.descriptor ⟨target⟩)
  | .output => opened (s.process.openOutput r.descriptor false ⟨target⟩)
  | .append => opened (s.process.openOutput r.descriptor true ⟨target⟩)
  | .duplicate =>
    if target = "-" then set { s with process := s.process.withChannel r.descriptor .sink }
    else
      match target.toNat? with
      | some other =>
        set { s with process := s.process.withChannel r.descriptor (s.process.channel other) }
      | none => refuse 1 (s.wording "Bad fd number" (target ++ ": ambiguous redirect"))

/-- Closes what was redirected: the descriptors lead where they led before. -/
def restorePorts (before s : State) : State :=
  { s with process := { s.process with channels := before.process.channels } }

/-! ## Programs -/

/-- What is said about a program that cannot be started, and the status. -/
def notStarted (s : State) (name : String) (e : FileFault) : Nat × String :=
  let missing := e = .notFound ∨ e = .notDirectory
  let t := s.process.machine.files
  let looked := !FileTree.isPathName name ∧ (s.get? "PATH").getD "" ≠ ""
  let reason :=
    if missing ∧ looked then "command not found"
    else if missing ∧ FileTree.isPathName name ∧ t.isRunnable s.process.cwd ⟨name⟩ then
      "cannot execute: required file not found"
    else if t.isDir s.process.cwd ⟨name⟩ then FileFault.isDirectory.reason
    else e.reason
  (if missing then 127 else 126,
    name ++ ": " ++ s.wording (if missing then "not found" else e.reason) reason)

/-- The path of the program that a name stands for. A file that may not be run counts if there
is no other one. -/
def programPath (s : State) (name : String) : Except FileFault String :=
  if FileTree.isPathName name then .ok name
  else if name = "" then .error .notFound
  else
    let t := s.process.machine.files
    let paths := (piecesOf ':' ((s.get? "PATH").getD "")).map (FileTree.nameIn · name)
    match paths.find? fun p => t.isRunnable s.process.cwd ⟨p⟩ with
    | some path => .ok path
    | none =>
      if paths.any fun p => t.isFile s.process.cwd ⟨p⟩ then .error .denied else .error .notFound

/-- What is printed about a program that a signal ended. -/
def killedText (signal : Nat) : Option String :=
  [(1, "Hangup"), (3, "Quit"), (6, "Aborted"), (9, "Killed"), (11, "Segmentation fault"),
    (14, "Alarm clock"), (15, "Terminated")].lookup signal

/-- Goes on after a program has ended. -/
def afterProgram (s : State) (ending : Ending) : Flow × State :=
  match ending with
  | .exited code => (.next, s.withStatus code)
  | .unending => (.unending, s)
  | .killed signal =>
    let s := match s.dialect, killedText signal with
      | .standard, some text => { s with process := s.process.complain text }
      | _, _ => s
    (.next, s.withStatus (128 + signal))

/-- Runs a program. A file without an interpreter line is a script for this shell. -/
def runProgram (eval : Evaluator) (env : Environment) (name : String) (args : List String)
    (s : State) : Flow × State :=
  let t := s.process.machine.files
  let refused (e : FileFault) : Flow × State :=
    let (status, message) := notStarted s name e
    (.next, (s.report message).withStatus status)
  match programPath s name with
  | .error e => refused e
  | .ok path =>
    let image : Except FileFault Image := match t.image s.process.cwd ⟨path⟩ (name :: args) with
      | .error .badFormat => .ok ⟨s.wording "sh" "bash", name :: path :: args⟩
      | image => image
    match image with
    | .error e => refused e
    | .ok image =>
      let (ending, after) := runImage (interpretBy eval) image { s.process with env }
      afterProgram { s with process := { s.process with machine := after.machine } } ending

/-! ## Functions -/

/-- Puts back the variables that a function made local. -/
def restoreLocals (s : State) : State :=
  s.locals.foldl (fun s e =>
    { s with vars := match e.2 with
      | some v => s.vars.insert e.1 v
      | none => s.vars.erase e.1 }) s

/-- Calls a function. -/
def callFunction (eval : Evaluator) (body : Statement) (args : List String) (s : State) :
    Flow × State :=
  let (flow, inner) := eval body { s with args, locals := [], inFunction := true }
  let after := { restoreLocals inner with
    args := s.args, locals := s.locals, inFunction := s.inFunction }
  match flow with
  | .returned => (.next, after)
  | flow => (flow, after)

/-! ## Simple commands -/

/-- Ends a shell whose words cannot be expanded. -/
def expansionFailed (s : State) (e : ExpansionFault) : Flow × State :=
  (.exit, (s.report e.message).withStatus e.status)

/-- Ends the shell if a command failed and nobody looks at its status. -/
def checkFailure (answer : Flow × State) : Flow × State :=
  match answer with
  | (.next, s) => if s.exitOnError ∧ !s.checked ∧ s.status ≠ 0 then (.exit, s) else (.next, s)
  | answer => answer

/-- Says what a name stands for. -/
def describe (s : State) (name : String) : Option String :=
  if (s.functions.get? name).isSome ∨ (Builtin.find? name).isSome then some name
  else
    match programPath s name with
    | .ok path =>
      if s.process.machine.files.isRunnable s.process.cwd ⟨path⟩ then some path else none
    | .error _ => none

/-- Runs a command that is not a function, with an environment for programs. -/
def runNamed (eval : Evaluator) (env : Environment) (name : String) (args : List String)
    (s : State) : Flow × State :=
  match name, args with
  | "eval", args => runScript eval (joined " " args) (s.withStatus 0)
  | "exec", [] => (.next, s.withStatus 0)
  | "exec", program :: args =>
    match programPath s program with
    | .error _ =>
      let (_, s) := runProgram eval env program args s
      (.exit, s)
    | .ok _ =>
      match runProgram eval env program args s with
      | (.next, s) => (.exit, s)
      | answer => answer
  | ".", file :: _ | "source", file :: _ =>
    match s.process.machine.files.readText s.process.cwd ⟨file⟩ with
    | .ok text =>
      let (flow, after) := runScript eval text { s with inFunction := true }
      let after := { after with inFunction := s.inFunction }
      if flow = .returned then (.next, after) else (flow, after)
    | .error e =>
      s.wording (.exit, (s.report (".: cannot open " ++ file ++ ": No such file")).withStatus 2)
        (.next, (s.report (file ++ ": " ++ e.reason)).withStatus 1)
  | "command", "-v" :: name :: _ =>
    match describe s name with
    | some text => (.next, { s with process := s.process.print (text ++ "\n"), status := 0 })
    | none => (.next, s.withStatus (s.wording 127 1))
  | "command", name :: args =>
    match Builtin.find? name with
    | some run => run args s
    | none => runProgram eval env name args s
  | name, args =>
    match Builtin.find? name with
    | some run => run args s
    | none => runProgram eval env name args s

/-- Assigns to variables. -/
def assignAll (s : State) (es : List (String × String)) : State :=
  es.foldl (fun s e => s.set e.1 e.2) s

/-- Runs the command that the fields of a simple command name. -/
def runFields (eval : Evaluator) (es : List (String × String)) (fields : List String)
    (s : State) : Flow × State :=
  match fields with
  | [] => (.next, (assignAll s es).withStatus (s.substituted.getD 0))
  | name :: args =>
    let restored (answer : Flow × State) : Flow × State :=
      (answer.1, es.foldl (fun after e =>
        { after with vars := match s.vars.get? e.1 with
          | some v => after.vars.insert e.1 v
          | none => after.vars.erase e.1 }) answer.2)
    let exported := es.foldl (fun s e => (s.set e.1 e.2).exportName e.1) s
    match s.functions.get? name with
    | some body => restored (callFunction eval body args exported)
    | none =>
      if Builtin.isSpecial name ∧ name ≠ "exec" then
        runNamed eval s.environment name args (assignAll s es)
      else if es = [] then runNamed eval s.environment name args s
      else restored (runNamed eval exported.environment name args exported)

/-- Runs a simple command: its words are expanded, its redirections are opened, and its
assignments are made. -/
def runSimple (eval : Evaluator) (line : Nat) (assignments : List (String × Word))
    (words : List Word) (redirections : List Redirection) (s : State) : Flow × State :=
  let capture := captureOutput eval
  let s := { s with line, substituted := none, interrupted := none }
  match (expandFields capture words).run s with
  | (.error e, s) => expansionFailed s e
  | (.ok fields, s) =>
    let before := s
    match (redirections.forM (redirect capture)).run s with
    | (.error e, s) =>
      ((if Builtin.isSpecial (fields.headD "") ∧ s.dialect = .standard then .exit else .next),
        (restorePorts before (s.report e.message)).withStatus e.status)
    | (.ok _, s) =>
      let value (a : String × Word) : Expanding (String × String) := do
        return (a.1, ← expandText capture a.2)
      match (assignments.mapM value).run s with
      | (.error e, s) => expansionFailed s e
      | (.ok es, s) =>
        match s.interrupted with
        | some flow => (flow, s)
        | none =>
          let (flow, s) := runFields eval es fields s
          if fields = ["exec"] then (flow, s)
          else checkFailure (flow, restorePorts before s)

/-! ## Compound statements -/

/-- Runs a statement whose status is looked at. -/
def runChecked (eval : Evaluator) (c : Statement) (s : State) : Flow × State :=
  let (flow, after) := eval c { s with checked := true }
  (flow, { after with checked := s.checked })

/-- How often a loop goes round before it counts as one that does not end. -/
def roundLimit : Nat := 100000

/-- Runs a loop: while the condition holds, or until it does. The fuel counts the rounds. -/
def runLoop (untilTrue : Bool) (condition body : State → Flow × State) :
    Nat → Nat → State → Flow × State
  | 0, _, s => (.unending, s)
  | fuel + 1, status, s =>
    match condition s with
    | (.next, s) =>
      if (s.status = 0) = untilTrue then (.next, s.withStatus status)
      else
        match body s with
        | (.next, s) | (.nextRound 0, s) | (.nextRound 1, s) =>
          runLoop untilTrue condition body fuel s.status s
        | (.nextRound (n + 2), s) => (.nextRound (n + 1), s)
        | (.leftLoop 0, s) | (.leftLoop 1, s) => (.next, s)
        | (.leftLoop (n + 2), s) => (.leftLoop (n + 1), s)
        | answer => answer
    | (.leftLoop 0, s) | (.leftLoop 1, s) => (.next, s)
    | (.leftLoop (n + 2), s) => (.leftLoop (n + 1), s)
    | answer => answer

/-- Runs a statement for each value of a variable. -/
def runEach (body : State → Flow × State) (name : String) :
    List String → State → Flow × State
  | [], s => (.next, s)
  | value :: rest, s =>
    match body (s.set name value) with
    | (.next, s) | (.nextRound 0, s) | (.nextRound 1, s) => runEach body name rest s
    | (.nextRound (n + 2), s) => (.nextRound (n + 1), s)
    | (.leftLoop 0, s) | (.leftLoop 1, s) => (.next, s)
    | (.leftLoop (n + 2), s) => (.leftLoop (n + 1), s)
    | answer => answer

/-- Runs a loop as one loop more. -/
def runInLoop (loop : State → Flow × State) (s : State) : Flow × State :=
  let (flow, after) := loop { s with loops := s.loops + 1 }
  (flow, { after with loops := s.loops })

/-- Whether one of some patterns describes a text. -/
def anyAccepts (capture : Capture) (text : List Char) : List Word → Expanding Bool
  | [] => pure false
  | word :: rest => do
    let p ← expandPattern capture word
    if p.accepts text then pure true else anyAccepts capture text rest

/-- The body of the first arm that describes a text. -/
def chosenArm (capture : Capture) (text : List Char) :
    List (List Word × Statement) → Expanding (Option Statement)
  | [] => pure none
  | (patterns, body) :: rest => do
    if ← anyAccepts capture text patterns then pure (some body)
    else chosenArm capture text rest

/-- Runs two statements with what the first prints being what the second reads. Both begin at
the same time, and the pipe ends when the later one does. -/
def runPipe (left right : State → Flow × State) (s : State) : Flow × State :=
  let (id, machine) := s.process.machine.openBuffer
  let start := machine.clock
  let writer := { s with process := { s.process with machine }.withChannel 1 (.buffer id) }
  match runApart left writer with
  | (.next, after) =>
    let written := after.process.machine.turn id
    let machine := { written with clock := start }
    let reader := { s with process := { s.process with machine }.withChannel 0 (.buffer id) }
    let (flow, after) := runApart right reader
    let machine := { after.process.machine with
      clock := max written.clock after.process.machine.clock }
    (flow, (s.joinPart after).joinPart
      { after with process := { after.process with machine } })
  | (flow, after) => (flow, s.joinPart after)

/-- Runs a statement that nobody waits for: it takes no time. -/
def runBackground (body : State → Flow × State) (s : State) : Flow × State :=
  let (_, after) := body s
  let machine := { after.process.machine with clock := s.process.machine.clock }
  (.next, { s with process := { s.process with machine }, status := 0 })

/-- The meaning of a statement, given that of the statements inside it. -/
def step (eval : Evaluator) (c : Statement) (s : State) : Flow × State :=
  let capture := captureOutput eval
  match c with
  | .simple line assignments words redirections =>
    runSimple eval line assignments words redirections s
  | .sequence cs => runSequence eval cs s
  | .pipe left right => checkFailure (runPipe (eval left) (eval right) s)
  | .both left right =>
    match runChecked eval left s with
    | (.next, s) => if s.status = 0 then eval right s else (.next, s)
    | answer => answer
  | .either left right =>
    match runChecked eval left s with
    | (.next, s) => if s.status = 0 then (.next, s) else eval right s
    | answer => answer
  | .negated c =>
    match runChecked eval c s with
    | (.next, s) => (.next, s.withStatus (if s.status = 0 then 1 else 0))
    | answer => answer
  | .background c => runBackground (eval c) s
  | .subshell c => checkFailure (runApart (eval c) s)
  | .redirected line c redirections =>
    match (redirections.forM (redirect capture)).run { s with line } with
    | (.error e, after) =>
      checkFailure (.next, (restorePorts s (after.report e.message)).withStatus e.status)
    | (.ok _, after) =>
      let (flow, after) := eval c after
      (flow, restorePorts s after)
  | .branch condition body otherwise =>
    match runChecked eval condition s with
    | (.next, s) => if s.status = 0 then eval body s else eval otherwise (s.withStatus 0)
    | answer => answer
  | .repeated untilTrue condition body =>
    runInLoop (runLoop untilTrue (runChecked eval condition) (eval body) roundLimit 0) s
  | .each name words body =>
    match words with
    | none => runInLoop (runEach (eval body) name s.args) (s.withStatus 0)
    | some words =>
      match (expandFields capture words).run s with
      | (.error e, s) => expansionFailed s e
      | (.ok values, s) => runInLoop (runEach (eval body) name values) (s.withStatus 0)
  | .choose word arms =>
    let chosen : Expanding (Option Statement) := do
      let text ← expandText capture word
      chosenArm capture text.toList arms
    match chosen.run s with
    | (.error e, s) => expansionFailed s e
    | (.ok none, s) => (.next, s.withStatus 0)
    | (.ok (some body), s) => eval body (s.withStatus 0)
  | .define name body =>
    (.next, { s with functions := s.functions.insert name body, status := 0 })

/-- How deep statements, functions and programs may be nested. -/
def depthLimit : Nat := 500

/-- Runs a statement to a depth. -/
def run : Nat → Evaluator
  | 0 => fun _ s => (.unending, s)
  | depth + 1 => step (run depth)

/-- How shells run scripts. -/
def interpret : Interpreter := interpretBy (run depthLimit)

end Toolchain.Shell
