import Toolchain.Machine.Condition

/-!
# Utilities

The programs that come with the system and the commands of the same names that a shell has
built in. A utility gets its arguments and a process, and answers a status and the process
afterwards.

  * `Utility.find?` — the utility of a name.
  * `systemUtilities` — the names for which there is a program.
-/

namespace Toolchain

/-- What a utility does. -/
abbrev Utility := List String → Process → Nat × Process

namespace Utility

/-! ## Options -/

/-- What a program says about an option that it does not have. -/
def badOption (name : String) (status : Nat) (option : Char) : Utility := fun _ p =>
  (status, (p.complain (name ++ ": invalid option -- '" ++ option.toString ++ "'")).complain
    ("Try '" ++ name ++ " --help' for more information."))

/-- A utility that has no options: a word that looks like one is refused. -/
def withoutOptions (name : String) (u : Utility) : Utility := fun args p =>
  match args.head?.map String.toList with
  | some ('-' :: c :: _) => if c = '-' then u args p else badOption name 1 c args p
  | _ => u args p

/-- Characters that a shell would not take as they are. -/
def needsQuotes (c : Char) : Bool := " !\"$&'()*;<=>?[\\^`|".toList.contains c

/-- The name of a file in a message, quoted if a shell would not take it as it is. -/
def shownOperand (s : String) : String :=
  let cs := s.toList
  let plain := cs ≠ [] ∧ !cs.any needsQuotes ∧ cs.head? ≠ some '#' ∧ cs.head? ≠ some '~'
    ∧ cs ≠ ['\x7b'] ∧ cs ≠ ['\x7d']
  if plain then s
  else if cs.contains '\'' ∧ !cs.any (fun c => "\"$`\\!".toList.contains c) then
    "\"" ++ s ++ "\""
  else "'" ++ replaced '\'' "'\\''" s ++ "'"

/-- A word in a message, between single quotes. -/
def quotedOperand (s : String) : String :=
  "'" ++ replaced '\'' "\\'" (replaced '\\' "\\\\" s) ++ "'"

/-- What a program says about a file. -/
def fileComplaint (name path : String) (fault : FileFault) : String :=
  name ++ ": " ++ shownOperand path ++ ": " ++ fault.reason

/-- What a program that opens all files first says about one that it cannot open. -/
def openComplaint (name path : String) (fault : FileFault) : String :=
  if fault = .isDirectory then name ++ ": error reading '" ++ path ++ "': " ++ fault.reason
  else name ++ ": cannot open '" ++ path ++ "' for reading: " ++ fault.reason

/-! ## Reading files -/

/-- The bytes of an operand: a file, or with `-` what is to be read. -/
def operandBytes (p : Process) (operand : String) :
    Except FileFault (List UInt8) × Process :=
  if operand = "-" then
    let (bytes, p) := p.takeInput
    (.ok bytes, p)
  else (p.machine.files.readBytes p.cwd ⟨operand⟩, p)

/-- Does something with the bytes of each operand; with none, with what is to be read. -/
def eachOperand (complaint : String → FileFault → String)
    (f : (operand : String) → List UInt8 → Process → Process)
    (operands : List String) (p : Process) : Nat × Process :=
  let step (answer : Nat × Process) (operand : String) : Nat × Process :=
    match operandBytes answer.2 operand with
    | (.ok bytes, p) => (answer.1, f operand bytes p)
    | (.error e, p) => (1, p.complain (complaint operand e))
  (if operands = [] then ["-"] else operands).foldl step (0, p)

/-- Prints files one after the other. -/
def cat : Utility := fun args p =>
  match args.find? fun a => a ≠ "-" ∧ a.toList.head? = some '-' ∧ a ≠ "-u" ∧ a ≠ "--" with
  | some option => badOption "cat" 1 ((option.toList.drop 1).headD '-') [] p
  | none =>
    eachOperand (fileComplaint "cat") (fun _ bytes p => p.write 1 bytes)
      (args.filter fun a => a ≠ "-u" ∧ a ≠ "--") p

/-! ## Parts of files -/

/-- How much of a file is meant, counted in lines or in bytes, from its beginning or from its
end. -/
structure Extent where
  bytes : Bool := false
  fromStart : Bool := false
  count : Nat := 10

/-- The lines of bytes, each with its end. -/
def lineBytes (s : List UInt8) : List (List UInt8) :=
  s.foldr (fun b lines =>
    match lines with
    | [] => [[b]]
    | line :: lines => if b = 10 then [b] :: line :: lines else (b :: line) :: lines) []

/-- The first part of a file. -/
def Extent.first (e : Extent) (s : List UInt8) : List UInt8 :=
  if e.bytes then s.take e.count else ((lineBytes s).take e.count).flatten

/-- The last part of a file, or all from a place on. -/
def Extent.last (e : Extent) (s : List UInt8) : List UInt8 :=
  if e.bytes then
    if e.fromStart then s.drop (e.count - 1) else s.drop (s.length - e.count)
  else
    let lines := lineBytes s
    (if e.fromStart then lines.drop (e.count - 1) else lines.drop (lines.length - e.count)).flatten

/-- The extent that a count describes. -/
def Extent.withCount (e : Extent) (count : List Char) : Option Extent :=
  match count with
  | '+' :: digits => (String.ofList digits).toNat?.map fun n => { e with fromStart := true, count := n }
  | '-' :: digits => (String.ofList digits).toNat?.map fun n => { e with count := n }
  | digits => (String.ofList digits).toNat?.map fun n => { e with count := n }

/-- Why the options for an extent are not understood. -/
inductive ExtentFault
  | option (c : Char)
  | missing (c : Char)
  | count (bytes : Bool) (s : String)

/-- Reads the options for an extent. -/
def readExtent (e : Extent) : List String → Except ExtentFault (Extent × List String)
  | [] => .ok (e, [])
  | arg :: rest =>
    let counted (e : Extent) (digits : List Char) : Except ExtentFault (Extent × List String) :=
      match digits, rest with
      | [], count :: rest =>
        match e.withCount count.toList with
        | some e => readExtent e rest
        | none => .error (.count e.bytes count)
      | [], [] => .error (.missing (if e.bytes then 'c' else 'n'))
      | digits, rest =>
        match e.withCount digits with
        | some e => readExtent e rest
        | none => .error (.count e.bytes (String.ofList digits))
    match arg.toList with
    | ['-'] => .ok (e, arg :: rest)
    | '-' :: 'n' :: digits => counted { e with bytes := false } digits
    | '-' :: 'c' :: digits => counted { e with bytes := true } digits
    | ['-', 'q'] => readExtent e rest
    | '-' :: c :: digits =>
      if c.isDigit then
        match e.withCount (c :: digits) with
        | some e => readExtent e rest
        | none => .error (.option c)
      else .error (.option c)
    | _ => .ok (e, arg :: rest)

/-- Prints a part of each file. -/
def part (name : String) (choose : Extent → List UInt8 → List UInt8) : Utility := fun args p =>
  match readExtent {} args with
  | .error (.option c) => badOption name 1 c [] p
  | .error (.missing c) =>
    (1, (p.complain (name ++ ": option requires an argument -- '" ++ c.toString ++ "'")).complain
      ("Try '" ++ name ++ " --help' for more information."))
  | .error (.count bytes s) =>
    (1, p.complain (name ++ ": invalid number of " ++ (if bytes then "bytes" else "lines") ++ ": "
      ++ quotedOperand s))
  | .ok (e, operands) =>
    eachOperand (openComplaint name) (fun _ bytes p => p.write 1 (choose e bytes)) operands p

/-- Counts lines, words or bytes. -/
def count : Utility := fun args p =>
  let options := args.filter fun a => a.toList.head? = some '-' ∧ a ≠ "-"
  let operands := args.filter fun a => !(a.toList.head? = some '-' ∧ a ≠ "-")
  let letters : List Char := match (options.flatMap fun o => o.toList.drop 1) with
    | [] => ['l', 'w', 'c']
    | letters => ['l', 'w', 'c'].filter letters.contains
  let measure (bytes : List UInt8) (letter : Char) : Nat :=
    match letter with
    | 'l' => bytes.count 10
    | 'w' => (wordsOf (Utf8.readLossy bytes)).length
    | _ => bytes.length
  let sizes := operands.map fun o => ((operandBytes p o).1.toOption.getD []).length
  let total := sizes.foldl (· + ·) 0
  let width :=
    if letters.length = 1 ∧ operands.length ≤ 1 then 1
    else if operands = [] ∨ operands.contains "-" then 7
    else (toString total).length
  eachOperand (fileComplaint "wc") (fun operand bytes p =>
    let counts := letters.map fun l => padLeft width (toString (measure bytes l))
    let name := if operands = [] then "" else " " ++ operand
    p.print (joined " " counts ++ name ++ "\n")) operands p

/-! ## Time -/

/-- How many milliseconds a unit has. -/
def unitLength : List Char → Option Nat
  | [] | ['s'] => some 1000
  | ['m'] => some 60000
  | ['h'] => some 3600000
  | ['d'] => some 86400000
  | _ => none

/-- A length of time in milliseconds. -/
def duration? (s : String) : Option Nat :=
  let whole := s.toList.takeWhile Char.isDigit
  let rest := s.toList.dropWhile Char.isDigit
  let (places, unit) := match rest with
    | '.' :: rest => (rest.takeWhile Char.isDigit, rest.dropWhile Char.isDigit)
    | rest => ([], rest)
  if whole = [] ∧ places = [] then none
  else
    let digits := (String.ofList (whole ++ places)).toNat?.getD 0
    (unitLength unit).map fun n => digits * n / Nat.pow 10 places.length

/-- Waits. -/
def sleep : Utility := fun args p =>
  if args = [] then
    (1, (p.complain "sleep: missing operand").complain
      "Try 'sleep --help' for more information.")
  else
    match args.find? fun a => (duration? a).isNone with
    | some wrong =>
      (1, (p.complain ("sleep: invalid time interval '" ++ wrong ++ "'")).complain
        "Try 'sleep --help' for more information.")
    | none =>
      let total := (args.filterMap duration?).foldl (· + ·) 0
      (0, { p with machine := p.machine.wait total })

/-! ## Names and numbers -/

/-- The last component of a path, without an ending. -/
def baseName : Utility := fun args p =>
  match args with
  | [] =>
    (1, (p.complain "basename: missing operand").complain
      "Try 'basename --help' for more information.")
  | path :: ending =>
    let name := ((piecesOf '/' path).filter (· ≠ "")).getLast?.getD
      (if path = "" then "" else "/")
    let cut := match ending with
      | [e] => if name = e then name
        else ((Text.dropEnd? e.toList name.toList).map String.ofList).getD name
      | _ => name
    (0, p.print (cut ++ "\n"))

/-- Paths without their last components. -/
def dirName : Utility := fun args p =>
  let above (path : String) : String :=
    let pieces := (piecesOf '/' path).filter (· ≠ "")
    let front := joined "/" pieces.dropLast
    if path.toList.head? = some '/' then "/" ++ front
    else if front = "" then "." else front
  (0, args.foldl (fun p path => p.print (above path ++ "\n")) p)

/-- The numbers from a first one to a last one. -/
def sequenceNumbers : Utility := fun args p =>
  let line (n : Int) : String := toString n ++ "\n"
  let numbers (first step last : Int) : List Int :=
    if step = 0 then []
    else
      let steps := ((last - first) / step)
      if steps < 0 then []
      else (List.range (steps.toNat + 1)).map fun i => first + step * Int.ofNat i
  match args.map String.toInt? with
  | [some last] => (0, (numbers 1 1 last).foldl (fun p n => p.print (line n)) p)
  | [some first, some last] => (0, (numbers first 1 last).foldl (fun p n => p.print (line n)) p)
  | [some first, some step, some last] =>
    (0, (numbers first step last).foldl (fun p n => p.print (line n)) p)
  | _ => (1, p.complain "seq: missing operand")

/-- Prints variables of the environment. -/
def printVariables : Utility := fun args p =>
  match args with
  | [] => (0, p.env.toList.foldl (fun p e => p.print (e.1 ++ "=" ++ e.2 ++ "\n")) p)
  | names =>
    names.foldl (fun answer name =>
      match answer.2.env.get? name with
      | some value => (answer.1, answer.2.print (value ++ "\n"))
      | none => (1, answer.2)) (0, p)

/-! ## Printing -/

/-- Prints its arguments. -/
def echo (v : Voice) : Utility := fun args p => (0, p.write 1 (Printing.echoBytes v args))

/-- Prints a format. -/
def printFormat (v : Voice) : Utility := fun args p =>
  match (if args.head? = some "--" then args.drop 1 else args) with
  | [] =>
    let usage := v.choose "printf: usage: printf format [arg ...]"
      "printf: usage: printf [-v var] format [arguments]" "printf: missing operand"
    let p := p.report v usage
    match v with
    | .program => (1, p.complain "Try 'printf --help' for more information.")
    | .shell .. => (2, p)
  | format :: args =>
    let r := Printing.printfRun v format args
    let p := r.complaints.foldl (fun p m => p.report v ("printf: " ++ m)) p
    let p := match v, r.args with
      | .program, left :: _ =>
        p.complain ("printf: warning: ignoring excess arguments, starting with "
          ++ quotedOperand left)
      | _, _ => p
    (if r.complaints = [] then 0 else 1, p.write 1 r.bytes)

/-- Prints the working directory. -/
def workingDirectory : Utility := fun _ p => (0, p.print (Place.text p.cwd ++ "\n"))

/-! ## All of them -/

/-- The utility of a name. -/
def find? (v : Voice) : String → Option Utility
  | "echo" => some (echo v)
  | "printf" => some (printFormat v)
  | "true" => some fun _ p => (0, p)
  | "false" => some fun _ p => (1, p)
  | "test" => some (Condition.run v "test")
  | "[" => some (Condition.run v "[")
  | "pwd" => some (if v = .program then withoutOptions "pwd" workingDirectory else workingDirectory)
  | "cat" => some cat
  | "head" => some (part "head" Extent.first)
  | "tail" => some (part "tail" Extent.last)
  | "wc" => some count
  | "sleep" => some (withoutOptions "sleep" sleep)
  | "basename" => some (withoutOptions "basename" baseName)
  | "dirname" => some (withoutOptions "dirname" dirName)
  | "seq" => some sequenceNumbers
  | "printenv" => some printVariables
  | _ => none

/-- The names of the utilities that the shells have built in. -/
def builtinNames : List String := ["echo", "printf", "true", "false", "test", "[", "pwd"]

end Utility

/-- The programs that are there on every system: the utilities, the shells, and the program
that changes the environment for another one. -/
def systemUtilities : List String :=
  ["echo", "printf", "true", "false", "test", "[", "pwd", "cat", "head", "tail", "wc", "sleep",
    "basename", "dirname", "seq", "printenv", "env", "sh", "dash", "bash"]

end Toolchain
