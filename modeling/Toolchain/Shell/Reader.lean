import Toolchain.Shell.Statement
import Toolchain.Text.Split

/-!
# Reading scripts

A script is read line by line: a line holds whole statements, and a statement that is not
finished at the end of a line goes on in the next one. So what stands before a fault can
still be run.

## Stages

  * `scan` finds the end of a quoted or substituted part without reading what is inside; its
    state is the stack of closing characters that are awaited.
  * `partsOf` cuts a word that was found into its parts.
  * `readUnit`, `readPipeline`, `readChain`, `readStatements` read statements. They recurse by
    fuel, which is the length of the script.

Here-documents and aliases are not read.
-/

namespace Toolchain.Shell

/-! ## Finding the end of a part -/

/-- The character that begins and ends an old-style command substitution. -/
def backquote : Char := '\x60'

/-- What a character opens, as the closing character that is awaited. -/
def opens (top : Char) (c : Char) (rest : List Char) : Option Char :=
  if c = backquote then some backquote
  else if c = '$' ∧ rest.head? = some '{' then some '}'
  else if top = '"' then none
  else if c = '"' ∨ c = '\'' then some c
  else none

/-- Scans until all awaited characters have come; answers what was passed, the latest
character first, and the rest. -/
def scan : List Char → List Char → List Char → Option (List Char × List Char)
  | [], done, s => some (done, s)
  | _ :: _, _, [] => none
  | '\'' :: stack, done, c :: rest =>
    scan (if c = '\'' then stack else '\'' :: stack) (c :: done) rest
  | top :: stack, done, '\\' :: c :: rest => scan (top :: stack) (c :: '\\' :: done) rest
  | top :: stack, done, c :: rest =>
    if c = top then scan stack (c :: done) rest
    else
      match opens top c rest, rest with
      | some '}', d :: rest => scan ('}' :: top :: stack) (d :: c :: done) rest
      | some awaited, rest => scan (awaited :: top :: stack) (c :: done) rest
      | none, rest =>
        if c = '(' ∧ (top = ')' ∨ done.head? = some '$') then
          scan (')' :: top :: stack) (c :: done) rest
        else scan (top :: stack) (c :: done) rest
termination_by _ _ s => s.length

/-- What stands before the awaited character, and the rest behind it. -/
def enclosed (awaited : Char) (s : List Char) : Option (List Char × List Char) :=
  (scan [awaited] [] s).map fun (done, rest) => (done.tail.reverse, rest)

/-- Characters that end a word. -/
def endsWord (c : Char) : Bool :=
  c ∈ [' ', '\t', '\n', ';', '&', '|', '<', '>', '(', ')']

/-- A word as it was written, and the rest; or the character that never comes to close a part
of it. The fuel bounds its length. -/
def rawWord : Nat → List Char → List Char → Except Char (List Char × List Char)
  | 0, done, s => .ok (done.reverse, s)
  | _, done, [] => .ok (done.reverse, [])
  | fuel + 1, done, '\\' :: c :: rest => rawWord fuel (c :: '\\' :: done) rest
  | fuel + 1, done, c :: rest =>
    if endsWord c then .ok (done.reverse, c :: rest)
    else
      let within (awaited : Char) (begun rest : List Char) :
          Except Char (List Char × List Char) :=
        match scan [awaited] [] rest with
        | none => .error awaited
        | some (part, rest) => rawWord fuel (part ++ begun) rest
      if c = '\'' ∨ c = '"' ∨ c = backquote then within c (c :: done) rest
      else
        match c, rest with
        | '$', '(' :: rest => within ')' ('(' :: '$' :: done) rest
        | '$', '{' :: rest => within '}' ('{' :: '$' :: done) rest
        | c, rest => rawWord fuel (c :: done) rest

/-! ## Parts of a word -/

/-- A character that may begin a name. -/
def beginsName (c : Char) : Bool := c.isAlpha || c == '_'

/-- A character of a name. -/
def inName (c : Char) : Bool := c.isAlphanum || c == '_'

/-- Whether a text is a name. -/
def isName (s : List Char) : Bool :=
  match s with
  | [] => false
  | c :: rest => beginsName c && rest.all inName

/-- Characters that are a parameter by themselves. -/
def specialParameters : List Char := ['@', '*', '#', '?', '-', '$', '!']

/-- The name of a parameter at the beginning of a text, and the rest. -/
def parameterName? (s : List Char) : Option (String × List Char) :=
  match s with
  | [] => none
  | c :: rest =>
    if beginsName c then
      some (String.ofList (c :: rest.takeWhile inName), rest.dropWhile inName)
    else if c.isDigit ∨ c ∈ specialParameters then some (c.toString, rest)
    else none

/-- The name of a parameter in braces, where a number may have more digits. -/
def bracedName? (s : List Char) : Option (String × List Char) :=
  match s.takeWhile Char.isDigit with
  | [] => parameterName? s
  | digits => some (String.ofList digits, s.dropWhile Char.isDigit)

/-- The modifier that follows a name in braces. -/
def modifier? (s : List Char) : Option Modifier :=
  match s with
  | [] => some .plain
  | ':' :: '-' :: w => some (.default true (String.ofList w))
  | ':' :: '=' :: w => some (.assign true (String.ofList w))
  | ':' :: '?' :: w => some (.demand true (String.ofList w))
  | ':' :: '+' :: w => some (.replace true (String.ofList w))
  | '-' :: w => some (.default false (String.ofList w))
  | '=' :: w => some (.assign false (String.ofList w))
  | '?' :: w => some (.demand false (String.ofList w))
  | '+' :: w => some (.replace false (String.ofList w))
  | '#' :: '#' :: w => some (.cutFront true (String.ofList w))
  | '#' :: w => some (.cutFront false (String.ofList w))
  | '%' :: '%' :: w => some (.cutBack true (String.ofList w))
  | '%' :: w => some (.cutBack false (String.ofList w))
  | _ => none

/-- The part that stands in braces. -/
def bracedPart (quoted : Bool) (s : List Char) : Part :=
  let plain : Part :=
    match bracedName? s with
    | some (name, rest) =>
      match modifier? rest with
      | some m => .parameter quoted name m
      | none => .unreadable
    | none => .unreadable
  match s with
  | '#' :: name =>
    match bracedName? name with
    | some (name, []) => .parameter quoted name .length
    | _ => plain
  | _ => plain

/-- The part behind a dollar sign, and the rest; none if the sign stands for itself. -/
def dollarPart (quoted : Bool) (s : List Char) : Option (Part × List Char) :=
  match s with
  | '(' :: '(' :: rest =>
    match enclosed ')' rest with
    | some (expression, ')' :: rest) => some (.arithmetic quoted (String.ofList expression), rest)
    | _ =>
      (enclosed ')' ('(' :: rest)).map fun (script, rest) =>
        (.output quoted (String.ofList script), rest)
  | '(' :: rest =>
    (enclosed ')' rest).map fun (script, rest) => (.output quoted (String.ofList script), rest)
  | '{' :: rest => (enclosed '}' rest).map fun (inside, rest) => (bracedPart quoted inside, rest)
  | s => (parameterName? s).map fun (name, rest) => (.parameter quoted name .plain, rest)

/-- The script of an old-style substitution, in which a backslash quotes three characters. -/
def unescapeBackquoted : List Char → List Char
  | '\\' :: c :: rest =>
    if c = '\\' ∨ c = '$' ∨ c = backquote then c :: unescapeBackquoted rest
    else '\\' :: c :: unescapeBackquoted rest
  | c :: rest => c :: unescapeBackquoted rest
  | [] => []

/-- Characters with a meaning inside a word. -/
def special (quoted : Bool) (c : Char) : Bool :=
  c == '\\' || c == '$' || c == backquote || (!quoted && (c == '\'' || c == '"'))

/-- The text of a character behind a backslash. -/
def escapedText (quoted : Bool) (c : Char) : String :=
  if c = '\n' then ""
  else if quoted ∧ !(c = '$' ∨ c = backquote ∨ c = '"' ∨ c = '\\') then String.ofList ['\\', c]
  else c.toString

/-- Cuts a word into its parts; the fuel bounds their number. -/
def cutParts : Nat → Bool → List Char → List Part
  | 0, _, _ => []
  | _, _, [] => []
  | fuel + 1, quoted, '\\' :: c :: rest =>
    if c = '\n' then cutParts fuel quoted rest
    else .text true (escapedText quoted c) :: cutParts fuel quoted rest
  | fuel + 1, quoted, c :: rest =>
    if !special quoted c then
      .text quoted (String.ofList (c :: rest.takeWhile (!special quoted ·)))
        :: cutParts fuel quoted (rest.dropWhile (!special quoted ·))
    else if c = '$' then
      match dollarPart quoted rest with
      | some (part, rest) => part :: cutParts fuel quoted rest
      | none => .text quoted "$" :: cutParts fuel quoted rest
    else
      match enclosed c rest with
      | none => .text quoted c.toString :: cutParts fuel quoted rest
      | some (inside, rest) =>
        let part :=
          if c = '\'' then [.text true (String.ofList inside)]
          else if c = backquote then
            [.output quoted (String.ofList (unescapeBackquoted inside))]
          else
            match cutParts fuel true inside with
            | [] => [.text true ""]
            | parts => parts
        part ++ cutParts fuel quoted rest

/-- The parts of a word, or of what stands between double quotes. -/
def partsOf (quoted : Bool) (s : List Char) : List Part := cutParts (s.length + 1) quoted s

/-! ## Faults -/

/-- What stands where something else was expected. -/
inductive Token
  | endOfScript
  | lineEnd
  | word (s : String)
  | reserved (s : String)
  | operator (s : String)
  deriving DecidableEq, Repr

/-- Why a script cannot be read. -/
inductive ReadFault
  /-- The character that would close a part of a word never comes. -/
  | unclosed (awaited : Char)
  | unexpected (found : Token) (expected : Option String)
  | badLoopName
  deriving DecidableEq, Repr

/-- A fault and the line of it. -/
structure Misread where
  line : Nat
  fault : ReadFault
  deriving DecidableEq, Repr

/-! ## The reader -/

/-- What is left of a script, and the number of the line. -/
structure Source where
  rest : List Char
  line : Nat := 1
  deriving Inhabited

/-- A step of the reader. -/
abbrev Reading := StateT Source (Except Misread)

/-- Goes on at a later place. -/
def moveTo (rest : List Char) : Reading Unit :=
  modify fun s =>
    { rest, line := s.line + ((s.rest.take (s.rest.length - rest.length)).count '\n') }

/-- Fails at this line. -/
def fault {α : Type} (f : ReadFault) : Reading α := do
  throw ⟨(← get).line, f⟩

/-- What stands before a statement: blanks and comments, and the ends of lines that are
continued. -/
def withoutBlanks : List Char → List Char
  | '\\' :: '\n' :: rest => withoutBlanks rest
  | c :: rest => if c = ' ' ∨ c = '\t' then withoutBlanks rest else c :: rest
  | [] => []

/-- Skips blanks and a comment. -/
def skipBlanks : Reading Unit := do
  match withoutBlanks (← get).rest with
  | '#' :: rest => moveTo (rest.dropWhile (· ≠ '\n'))
  | rest => moveTo rest

/-- Skips blanks, comments and line ends; the fuel bounds their number. -/
def skipLines : Nat → Reading Unit
  | 0 => pure ()
  | fuel + 1 => do
    skipBlanks
    match (← get).rest with
    | '\n' :: rest =>
      moveTo rest
      skipLines fuel
    | _ => pure ()

/-- Skips blanks, comments and line ends. -/
def skipAll : Reading Unit := do
  skipLines ((← get).rest.length + 1)

/-- The operators, the longer ones first. -/
def operators : List String :=
  ["&&", "||", ";;", "<<", ">>", "<&", ">&", ">|", "<>", "&", "|", ";", "<", ">", "(", ")"]

/-- The operator at the beginning of a text. -/
def operatorAt? (s : List Char) : Option String :=
  operators.find? fun op => op.toList.isPrefixOf s

/-- Skips blanks, and takes an operator if it comes next. -/
def takeOperator (op : String) : Reading Bool := do
  skipBlanks
  let s ← get
  if operatorAt? s.rest = some op then
    moveTo (s.rest.drop op.length)
    pure true
  else pure false

/-- Words with a meaning where a statement may begin. -/
def reservedWords : List String :=
  ["if", "then", "else", "elif", "fi", "for", "in", "do", "done", "while", "until", "case",
    "esac", "\x7b", "\x7d", "!"]

/-- Words that end a list of statements. -/
def closingWords : List String :=
  ["then", "else", "elif", "fi", "do", "done", "esac", "\x7d"]

/-- The word that comes next, as it was written, and the rest; none at an operator. -/
def wordAhead : Reading (Option (List Char × List Char)) := do
  skipBlanks
  let s ← get
  match rawWord s.rest.length [] s.rest with
  | .error awaited => fault (.unclosed awaited)
  | .ok ([], _) => pure none
  | .ok found => pure (some found)

/-- The word that comes next if it is one of the reserved ones. -/
def reservedAhead : Reading (Option String) := do
  match ← wordAhead with
  | none => pure none
  | some (raw, _) =>
    let word := String.ofList raw
    pure (if word ∈ reservedWords then some word else none)

/-- Takes a word as it was written. -/
def takeRaw : Reading (Option (List Char)) := do
  match ← wordAhead with
  | none => pure none
  | some (raw, rest) =>
    moveTo rest
    pure (some raw)

/-- What comes next, for a message. -/
def tokenAhead : Reading Token := do
  match ← wordAhead with
  | some (raw, _) =>
    let word := String.ofList raw
    pure (if word ∈ reservedWords then .reserved word else .word word)
  | none =>
    let s ← get
    match s.rest, operatorAt? s.rest with
    | [], _ => pure .endOfScript
    | _, some op => pure (.operator op)
    | _, none => pure .lineEnd

/-- Fails because something else was expected. -/
def misplaced {α : Type} (expected : Option String) : Reading α := do
  let token ← tokenAhead
  fault (.unexpected token expected)

/-- Takes a reserved word, which has to come next. -/
def expectWord (word : String) : Reading Unit := do
  skipAll
  if (← reservedAhead) = some word then
    let _ ← takeRaw
  else misplaced (some word)

/-- Takes an operator, which has to come next. -/
def expectOperator (op : String) : Reading Unit := do
  if !(← takeOperator op) then misplaced (some op)

/-! ## Redirections -/

/-- The redirection operators and what they do, with the descriptor that is meant if none is
named. -/
def redirectionKinds : List (String × Nat × RedirectionKind) :=
  [(">>", 1, .append), (">&", 1, .duplicate), (">|", 1, .output), (">", 1, .output),
    ("<&", 0, .duplicate), ("<", 0, .input)]

/-- Takes a redirection if one comes next. -/
def takeRedirection : Reading (Option Redirection) := do
  skipBlanks
  let s ← get
  let digits := s.rest.takeWhile Char.isDigit
  let rest := s.rest.dropWhile Char.isDigit
  match redirectionKinds.find? fun (op, _) => operatorAt? rest = some op with
  | none => pure none
  | some (op, usual, kind) =>
    moveTo (rest.drop op.length)
    match ← takeRaw with
    | none => misplaced none
    | some raw =>
      let descriptor := if digits = [] then usual else ((String.ofList digits).toNat?).getD usual
      pure (some ⟨descriptor, kind, partsOf false raw⟩)

/-- Takes the redirections that come next; the fuel bounds their number. -/
def takeRedirections : Nat → Reading (List Redirection)
  | 0 => pure []
  | fuel + 1 => do
    match ← takeRedirection with
    | none => pure []
    | some r => return r :: (← takeRedirections fuel)

/-! ## Simple commands -/

/-- The name and the value of an assignment. -/
def assignment? (raw : List Char) : Option (String × List Char) :=
  match Text.cutAt '=' raw with
  | none => none
  | some (name, value) => if isName name then some (String.ofList name, value) else none

/-- A simple command that is being read, the last pieces first. -/
structure Draft where
  assignments : List (String × Word) := []
  words : List Word := []
  redirections : List Redirection := []

/-- Adds a word; before the first one it may be an assignment. -/
def Draft.addWord (d : Draft) (raw : List Char) : Draft :=
  match (if d.words.isEmpty then assignment? raw else none) with
  | some (name, value) => { d with assignments := (name, partsOf false value) :: d.assignments }
  | none => { d with words := partsOf false raw :: d.words }

/-- Reads the words and redirections of a simple command; the fuel bounds their number. -/
def readDraft : Nat → Draft → Reading Draft
  | 0, d => pure d
  | fuel + 1, d => do
    match ← takeRedirection with
    | some r => readDraft fuel { d with redirections := r :: d.redirections }
    | none =>
      match ← takeRaw with
      | some raw => readDraft fuel (d.addWord raw)
      | none => pure d

/-- Reads a simple command, which cannot be empty. A parenthesis behind its only word begins
the definition of a function. -/
def readSimple (fuel : Nat) : Reading Statement := do
  skipBlanks
  let line := (← get).line
  let d ← readDraft fuel {}
  if d.assignments.isEmpty ∧ d.words.isEmpty ∧ d.redirections.isEmpty then misplaced none
  else if d.words.length = 1 ∧ (← takeOperator "(") then misplaced (some ")")
  else
    pure (.simple line d.assignments.reverse d.words.reverse d.redirections.reverse)

/-- Whether a function is defined here: a name and a pair of parentheses. Answers the name and
the rest. -/
def definitionAhead : Reading (Option (String × List Char)) := do
  match ← wordAhead with
  | none => pure none
  | some (raw, rest) =>
    match withoutBlanks rest with
    | '(' :: rest =>
      match withoutBlanks rest with
      | ')' :: rest => pure (some (String.ofList raw, rest))
      | _ => pure none
    | _ => pure none

/-! ## Statements -/

/-- Words up to the end of a line or a semicolon; the fuel bounds their number. -/
def readWords : Nat → Reading (List Word)
  | 0 => pure []
  | fuel + 1 => do
    match ← takeRaw with
    | none => pure []
    | some raw => return partsOf false raw :: (← readWords fuel)

/-- The patterns of an arm, separated by bars, up to the parenthesis; the fuel bounds their
number. -/
def readPatterns : Nat → Reading (List Word)
  | 0 => pure []
  | fuel + 1 => do
    match ← takeRaw with
    | none => misplaced (some ")")
    | some raw =>
      if ← takeOperator "|" then
        return partsOf false raw :: (← readPatterns fuel)
      else
        expectOperator ")"
        pure [partsOf false raw]

mutual

/-- Reads statements up to a closing word or operator, or to the end of the line if
`oneLine`. -/
def readStatements : Nat → (oneLine : Bool) → Reading (List Statement)
  | 0, _ => pure []
  | fuel + 1, oneLine => do
    if oneLine then skipBlanks else skipAll
    match (← get).rest with
    | [] | '\n' :: _ | ')' :: _ | ';' :: ';' :: _ => pure []
    | _ =>
      match ← reservedAhead with
      | some word =>
        if word ∈ closingWords then pure [] else readMore fuel oneLine
      | none => readMore fuel oneLine

/-- Reads a statement that is there, and those after it. -/
def readMore : Nat → (oneLine : Bool) → Reading (List Statement)
  | 0, _ => pure []
  | fuel + 1, oneLine => do
    let first ← readChain fuel
    if ← takeOperator "&" then
      return .background first :: (← readStatements fuel oneLine)
    else if ← takeOperator ";" then
      return first :: (← readStatements fuel oneLine)
    else
      match (← get).rest, oneLine with
      | '\n' :: _, false => return first :: (← readStatements fuel oneLine)
      | _, _ => pure [first]

/-- Reads pipelines that are joined by `&&` and `||`. -/
def readChain : Nat → Reading Statement
  | 0 => misplaced none
  | fuel + 1 => do
    let first ← readPipeline fuel
    readChainRest fuel first

/-- Goes on behind the first pipelines of a chain. -/
def readChainRest : Nat → Statement → Reading Statement
  | 0, first => pure first
  | fuel + 1, first => do
    if ← takeOperator "&&" then
      skipAll
      let next ← readPipeline fuel
      readChainRest fuel (.both first next)
    else if ← takeOperator "||" then
      skipAll
      let next ← readPipeline fuel
      readChainRest fuel (.either first next)
    else pure first

/-- Reads a pipeline, which may be negated. -/
def readPipeline : Nat → Reading Statement
  | 0 => misplaced none
  | fuel + 1 => do
    if (← reservedAhead) = some "!" then
      let _ ← takeRaw
      return .negated (← readPipes fuel)
    else readPipes fuel

/-- Reads commands that are joined by bars. -/
def readPipes : Nat → Reading Statement
  | 0 => misplaced none
  | fuel + 1 => do
    let first ← readUnit fuel
    if ← takeOperator "|" then
      skipAll
      return .pipe first (← readPipes fuel)
    else pure first

/-- Reads a command with its redirections. -/
def readUnit : Nat → Reading Statement
  | 0 => misplaced none
  | fuel + 1 => do
    skipBlanks
    let line := (← get).line
    let redirected (statement : Statement) : Reading Statement := do
      match ← takeRedirections fuel with
      | [] => pure statement
      | rs => pure (.redirected line statement rs)
    if ← takeOperator "(" then
      let inside ← readStatements fuel false
      if inside.isEmpty then misplaced none
      expectOperator ")"
      redirected (.subshell (.sequence inside))
    else
      match ← reservedAhead with
      | some "\x7b" => do
        let _ ← takeRaw
        let inside ← readSome fuel
        expectWord "\x7d"
        redirected inside
      | some "if" => do
        let _ ← takeRaw
        redirected (← readBranches fuel)
      | some "while" => do
        let _ ← takeRaw
        redirected (← readLoop fuel false)
      | some "until" => do
        let _ ← takeRaw
        redirected (← readLoop fuel true)
      | some "for" => do
        let _ ← takeRaw
        redirected (← readEach fuel)
      | some "case" => do
        let _ ← takeRaw
        redirected (← readChoice fuel)
      | some _ => misplaced none
      | none =>
        match ← definitionAhead with
        | some (name, rest) =>
          moveTo rest
          skipAll
          return .define name (← readUnit fuel)
        | none => readSimple fuel

/-- Reads statements of which there has to be one. -/
def readSome : Nat → Reading Statement
  | 0 => misplaced none
  | fuel + 1 => do
    match ← readStatements fuel false with
    | [] => if (← get).rest = [] then pure (.sequence []) else misplaced none
    | inside => pure (.sequence inside)

/-- Reads what follows `if` or `elif`. -/
def readBranches : Nat → Reading Statement
  | 0 => misplaced none
  | fuel + 1 => do
    let condition ← readSome fuel
    expectWord "then"
    let body ← readSome fuel
    match ← reservedAhead with
    | some "elif" =>
      let _ ← takeRaw
      return .branch condition body (← readBranches fuel)
    | some "else" =>
      let _ ← takeRaw
      let otherwise ← readSome fuel
      expectWord "fi"
      pure (.branch condition body otherwise)
    | _ =>
      expectWord "fi"
      pure (.branch condition body (.sequence []))

/-- Reads what follows `while` or `until`. -/
def readLoop : Nat → Bool → Reading Statement
  | 0, _ => misplaced none
  | fuel + 1, untilTrue => do
    let condition ← readSome fuel
    expectWord "do"
    let body ← readSome fuel
    expectWord "done"
    pure (.repeated untilTrue condition body)

/-- Reads what follows `for`. -/
def readEach : Nat → Reading Statement
  | 0 => misplaced none
  | fuel + 1 => do
    match ← takeRaw with
    | none => fault .badLoopName
    | some name =>
      if !isName name then fault .badLoopName
      skipAll
      let words ←
        if (← reservedAhead) = some "in" then do
          let _ ← takeRaw
          pure (some (← readWords fuel))
        else pure none
      let _ ← takeOperator ";"
      expectWord "do"
      let body ← readSome fuel
      expectWord "done"
      pure (.each (String.ofList name) words body)

/-- Reads what follows `case`. -/
def readChoice : Nat → Reading Statement
  | 0 => misplaced none
  | fuel + 1 => do
    match ← takeRaw with
    | none => misplaced none
    | some word =>
      expectWord "in"
      let arms ← readArms fuel
      expectWord "esac"
      pure (.choose (partsOf false word) arms)

/-- Reads the arms of a choice. -/
def readArms : Nat → Reading (List (List Word × Statement))
  | 0 => pure []
  | fuel + 1 => do
    skipAll
    if (← reservedAhead) = some "esac" then pure []
    else
      let _ ← takeOperator "("
      let patterns ← readPatterns fuel
      let body ← readStatements fuel false
      if ← takeOperator ";;" then
        return (patterns, .sequence body) :: (← readArms fuel)
      else pure [(patterns, .sequence body)]

end

/-! ## Scripts -/

/-- A script: the statements before the first fault, and that fault. -/
structure Script where
  statements : List Statement := []
  fault : Option Misread := none
  deriving Inhabited

/-- Reads one line of statements, with what continues it, and its end. -/
def readLine (fuel : Nat) : Reading (List Statement) := do
  let statements ← readStatements fuel true
  skipBlanks
  match (← get).rest with
  | [] => pure statements
  | '\n' :: rest =>
    moveTo rest
    pure statements
  | _ => misplaced none

/-- Reads line after line; the fuel bounds the number of lines and the depth of each. -/
def readScriptFrom (depth : Nat) : Nat → Source → Script
  | 0, _ => {}
  | fuel + 1, s =>
    if s.rest = [] then {}
    else
      match (readLine depth).run s with
      | .error e => { fault := some e }
      | .ok (statements, s) =>
        let later := readScriptFrom depth fuel s
        { later with statements := statements ++ later.statements }

/-- How many steps of the reader a text may need for each of its characters. -/
def stepsPerCharacter : Nat := 12

/-- Reads a script. -/
def readScript (text : String) : Script :=
  let s := text.toList
  readScriptFrom ((s.length + 1) * stepsPerCharacter) (s.length + 1) { rest := s }

end Toolchain.Shell
