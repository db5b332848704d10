import Toolchain.Environment.Variables
import Toolchain.Path

/-!
# Options of the command line

A command line has options that hold for every action, one action, and the options and
operands of that action. The general options may stand before the action and behind its
name; what stands behind the name wins. The compilers file may also be given by a variable
of the environment, which counts less than any option.

  * `Grammar` — which options and how many operands there may be at one level.
  * `Grammar.read` — reads one level.
  * `Request.read` — reads a command line.

An option may be given once at each level. A value of its own word does not begin with `-`
unless it is nothing else, and behind `--` everything is an operand.
-/

namespace Toolchain.CommandLine

/-! ## Requests -/

/-- What is to be done. -/
inductive Action
  | list (detected : Option Path)
  | display (query : String)
  | flags (query : String) (property : Option String)
  | verify (query : Option String)
  /-- Prints the library directories, waiting so many seconds for the dummy compile. -/
  | rpaths (query : String) (implicitOnly : Bool) (seconds : Nat)
  deriving DecidableEq, Repr

/-- A command line that was understood. -/
structure Request where
  verbose : Bool := false
  plain : Bool := false
  config : Option Path := none
  action : Action
  deriving DecidableEq, Repr

/-- Why nothing is to be done. -/
inductive Refusal
  /-- The command line is not understood. -/
  | usage
  | version
  | help
  deriving DecidableEq, Repr

/-! ## One level -/

/-- The options of a level: switches, each perhaps with a letter, and options with a value;
and how many operands there may be. -/
structure Grammar where
  switches : List (String × Option Char)
  valued : List String
  operands : Nat := 0
  /-- Whether the version can be asked for. -/
  hasVersion : Bool := false
  /-- The names of actions that end the level. -/
  actions : List String := []
  deriving Repr

/-- What a level gave, the last first. -/
structure Reading where
  switches : List String := []
  values : List (String × String) := []
  operands : List String := []
  /-- The action that ended the level, and the words behind it. -/
  action : Option (String × List String) := none
  deriving DecidableEq, Repr

namespace Reading

/-- Turns a switch on, which can be done once. -/
def addSwitch (r : Reading) (name : String) : Except Refusal Reading :=
  if r.switches.contains name then .error .usage
  else .ok { r with switches := name :: r.switches }

/-- Gives an option its value, which can be done once. -/
def addValue (r : Reading) (name value : String) : Except Refusal Reading :=
  if (r.values.lookup name).isSome then .error .usage
  else .ok { r with values := (name, value) :: r.values }

/-- Adds an operand if there may be one more. -/
def addOperand (g : Grammar) (r : Reading) (operand : String) : Except Refusal Reading :=
  if r.operands.length < g.operands then .ok { r with operands := operand :: r.operands }
  else .error .usage

/-- Adds operands. -/
def addOperands (g : Grammar) : Reading → List String → Except Refusal Reading
  | r, [] => .ok r
  | r, operand :: rest => do addOperands g (← r.addOperand g operand) rest

/-- The operands in the order in which they were given. -/
def given (r : Reading) : List String := r.operands.reverse

end Reading

namespace Grammar

/-- Takes the switches of a word such as `-v`. -/
def readLetters (g : Grammar) : Reading → List Char → Except Refusal Reading
  | r, [] => .ok r
  | r, letter :: rest =>
    if letter = 'h' then .error .help
    else if letter = 'V' ∧ g.hasVersion then .error .version
    else
      match g.switches.find? fun (_, c) => c = some letter with
      | some (name, _) => do g.readLetters (← r.addSwitch name) rest
      | none => .error .usage

/-- Whether a word can be the value of an option. -/
def isValue (word : String) : Bool := word == "-" || word.toList.head? != some '-'

/-- Takes a long option that has no value attached. The value of an option with one is the
next word. -/
def readLong (g : Grammar) (r : Reading) (name : String) (rest : List String) :
    Except Refusal (Reading × Bool) :=
  if name = "help" then .error .help
  else if name = "version" ∧ g.hasVersion then .error .version
  else if (g.switches.lookup name).isSome then (r.addSwitch name).map (·, false)
  else if g.valued.contains name then
    match rest with
    | [] => .error .usage
    | value :: _ =>
      if isValue value then (r.addValue name value).map (·, true) else .error .usage
  else .error .usage

/-- Takes a long option with a value attached. -/
def readAttached (g : Grammar) (r : Reading) (name value : String) : Except Refusal Reading :=
  if g.valued.contains name then r.addValue name value else .error .usage

/-- Reads a level, up to the name of an action. -/
def read (g : Grammar) : Reading → List String → Except Refusal Reading
  | r, [] => .ok r
  | r, word :: rest =>
    match word.toList with
    | ['-', '-'] => r.addOperands g rest
    | '-' :: '-' :: name =>
      match Text.cutAt '=' name with
      | some (name, value) => do
        let r ← g.readAttached r (String.ofList name) (String.ofList value)
        g.read r rest
      | none =>
        match g.readLong r (String.ofList name) rest with
        | .error e => .error e
        | .ok (r, false) => g.read r rest
        | .ok (r, true) => g.read r (rest.drop 1)
    | '-' :: letter :: letters => do
      let r ← g.readLetters r (letter :: letters)
      g.read r rest
    | _ =>
      if g.actions.contains word then .ok { r with action := some (word, rest) }
      else do
        let r ← r.addOperand g word
        g.read r rest
termination_by _ words => words.length

end Grammar

/-! ## All levels -/

/-- The switches that hold for every action. -/
def generalSwitches : List (String × Option Char) := [("verbose", some 'v'), ("no-color", none)]

/-- The options with a value that hold for every action. -/
def generalValued : List String := ["config"]

/-- The variable that gives the compilers file. -/
def configVariable : String := "COMPILERKIT_CONFIG"

/-- The level in front of the action. -/
def topGrammar : Grammar where
  switches := generalSwitches
  valued := generalValued
  hasVersion := true
  actions := ["list", "show", "flags", "verify", "rpaths", "help"]

/-- The level behind the name of an action. -/
def actionGrammar (name : String) : Grammar :=
  let general : Grammar := { switches := generalSwitches, valued := generalValued }
  match name with
  | "list" => { general with valued := "detected" :: general.valued }
  | "flags" => { general with operands := 2 }
  | "rpaths" =>
    { general with
      operands := 1
      switches := ("implicit-only", none) :: general.switches
      valued := "timeout" :: general.valued }
  | _ => { general with operands := 1 }

/-- The value of an option that is a path, which cannot be empty. -/
def pathValue (r : Reading) (name : String) : Except Refusal (Option Path) :=
  match r.values.lookup name with
  | none => .ok none
  | some "" => .error .usage
  | some text => .ok (some ⟨text⟩)

/-- The number of seconds to wait if nothing is said. -/
def defaultSeconds : Nat := 60

/-- A number of seconds, which has to fit into a machine word; a plus may stand in front. -/
def seconds? (text : String) : Option Nat :=
  let digits := match text.toList with
    | '+' :: rest => rest
    | s => s
  if digits = [] ∨ !digits.all Char.isDigit then none
  else
    let n := digits.foldl (fun n c => n * 10 + (c.toNat - '0'.toNat)) 0
    if n < Nat.pow 2 64 then some n else none

/-- The action that a name and the words behind it ask for. -/
def actionOf (name : String) (r : Reading) : Except Refusal Action := do
  match name, r.given with
  | "list", [] => return .list (← pathValue r "detected")
  | "show", [query] => return .display query
  | "flags", [query] => return .flags query none
  | "flags", [query, property] => return .flags query (some property)
  | "verify", [] => return .verify none
  | "verify", [query] => return .verify (some query)
  | "rpaths", [query] =>
    let seconds ← match r.values.lookup "timeout" with
      | none => pure defaultSeconds
      | some text =>
        match seconds? text with
        | some n => pure n
        | none => throw .usage
    return .rpaths query (r.switches.contains "implicit-only") seconds
  | _, _ => throw .usage

/-- The compilers file that a level gives. A variable that is set but empty is not
understood. -/
def configOf (env : Environment) (r : Reading) : Except Refusal (Option Path) := do
  match ← pathValue r "config" with
  | some path => return some path
  | none =>
    match env.get? configVariable with
    | some "" => throw .usage
    | _ => return none

/-- What asking for help gives: help on the program or on one action, and nothing else. -/
def helpRefusal : List String → Refusal
  | [] => .help
  | [name] => if topGrammar.actions.contains name then .help else .usage
  | _ => .usage

/-- Reads a command line. -/
def Request.read (env : Environment) (args : List String) : Except Refusal Request := do
  let top ← topGrammar.read {} args
  match top.action with
  | none => throw .usage
  | some ("help", rest) => throw (helpRefusal rest)
  | some (name, rest) =>
    let inner ← (actionGrammar name).read {} rest
    let action ← actionOf name inner
    let near ← configOf env inner
    let far ← configOf env top
    let switched (switch : String) : Bool :=
      top.switches.contains switch || inner.switches.contains switch
    return {
      verbose := switched "verbose"
      plain := switched "no-color"
      config := near <|> far <|> (env.get? configVariable).map Path.mk
      action }

example : (Request.read ∅ ["-v", "--config", "a", "show", "gcc", "--config=b"]).toOption =
    some { verbose := true, config := some ⟨"b"⟩, action := .display "gcc" } := by decide +kernel
example : (Request.read ∅ ["list", "x"]).toOption = none := by decide +kernel

end Toolchain.CommandLine
