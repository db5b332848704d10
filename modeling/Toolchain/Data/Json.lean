import Toolchain.Data.Tree

/-!
# JSON

`Json.read` reads a text into a data tree and `Json.write` writes a tree.

## Reading

The reader works on what is left of the text. A failure keeps where it happened as that
rest and a number of bytes after it, from which the line and the column are counted at the
end. Some failures concern the character that comes next and not the one just taken; these
point one byte further (`failNext`).

Objects have their keys in order, the last of equal keys counting. A whole number that a
64-bit word holds, with or without sign, is an integer; every other number is a fraction.
-/

namespace Toolchain.Json

/-! ## Failures -/

/-- What is wrong with a text. -/
inductive Fault
  | endInList
  | endInObject
  | endInString
  | endInValue
  | colonExpected
  | listCommaOrEnd
  | objectCommaOrEnd
  | wordExpected
  | valueExpected
  | badEscape
  | badNumber
  | numberTooLarge
  | controlCharacter
  | keyExpected
  | loneSurrogate
  | trailingComma
  | trailingCharacters
  | brokenSurrogate
  | tooDeep
  deriving DecidableEq, Repr

/-- A fault in words. -/
def Fault.words : Fault → String
  | endInList => "EOF while parsing a list"
  | endInObject => "EOF while parsing an object"
  | endInString => "EOF while parsing a string"
  | endInValue => "EOF while parsing a value"
  | colonExpected => "expected `:`"
  | listCommaOrEnd => "expected `,` or `]`"
  | objectCommaOrEnd => "expected `,` or `\x7d`"
  | wordExpected => "expected ident"
  | valueExpected => "expected value"
  | badEscape => "invalid escape"
  | badNumber => "invalid number"
  | numberTooLarge => "number out of range"
  | controlCharacter => "control character (\\u0000-\\u001F) found while parsing a string"
  | keyExpected => "key must be a string"
  | loneSurrogate => "lone leading surrogate in hex escape"
  | trailingComma => "trailing comma"
  | trailingCharacters => "trailing characters"
  | brokenSurrogate => "unexpected end of hex escape"
  | tooDeep => "recursion limit exceeded"

/-- A failure: what is wrong, what was left of the text, and how many bytes of that the
failure lies behind. -/
structure Failure where
  fault : Fault
  rest : List Char
  skip : Nat
  deriving Repr

/-- The outcome of reading something: its value and what is left. -/
abbrev Outcome (α : Type) := Except Failure (α × List Char)

/-- A failure at what is left. -/
def failAt {α : Type} (fault : Fault) (rest : List Char) : Except Failure α :=
  .error ⟨fault, rest, 0⟩

/-- A failure at the next character, which is pointed behind. -/
def failNext {α : Type} (fault : Fault) (rest : List Char) : Except Failure α :=
  .error ⟨fault, rest, 1⟩

/-- How many bytes a text takes. -/
def byteLength (s : List Char) : Nat := s.foldl (fun n c => n + c.utf8Size) 0

/-- The line and the column at a byte position, both counted from what is before it. -/
def locate : Nat → List Char → Nat → Nat → Nat × Nat
  | _, [], line, column => (line, column)
  | n, c :: cs, line, column =>
    if n < c.utf8Size then (line, column + n)
    else if c = '\n' then locate (n - 1) cs (line + 1) 0
    else locate (n - c.utf8Size) cs line (column + c.utf8Size)

/-- A failure as text, with the place in the whole text. -/
def Failure.message (whole : List Char) (f : Failure) : String :=
  let total := byteLength whole
  let index := min total (total - byteLength f.rest + f.skip)
  let (line, column) := locate index whole 1 0
  f.fault.words ++ " at line " ++ toString line ++ " column " ++ toString column

/-! ## Words and numbers -/

/-- Blanks between tokens. -/
def skipBlank (s : List Char) : List Char :=
  s.dropWhile fun c => c == ' ' || c == '\n' || c == '\t' || c == '\r'

/-- Takes the rest of a word such as `null`, whose first letter is known. -/
def takeWord : List Char → List Char → Except Failure (List Char)
  | [], rest => .ok rest
  | _ :: _, [] => failAt .endInValue []
  | w :: ws, c :: cs => if c = w then takeWord ws cs else failNext .wordExpected (c :: cs)

/-- The digits at the beginning, and what is left. -/
def takeDigits (s : List Char) : List Char × List Char :=
  (s.takeWhile Text.isDigit, s.dropWhile Text.isDigit)

/-- The exponent after its `e`. -/
def takeExponent (s : List Char) : Outcome Int :=
  let (negative, s) := match s with
    | '+' :: cs => (false, cs)
    | '-' :: cs => (true, cs)
    | cs => (false, cs)
  match s with
  | [] => failAt .endInValue []
  | c :: cs =>
    if Text.isDigit c then
      let (ds, rest) := takeDigits (c :: cs)
      let n := Text.digitsValue ds
      .ok (if negative then -(n : Int) else n, rest)
    else failNext .badNumber (c :: cs)

/-- A fraction, if a 64-bit number can hold it. -/
def makeFraction (negative : Bool) (digits : Nat) (exponent : Int) (rest : List Char) :
    Outcome Data :=
  match Binary.nearest? digits exponent with
  | none => failAt .numberTooLarge rest
  | some _ => .ok (.fraction (.finite negative digits exponent), rest)

/-- What follows the whole part of a number. -/
def takeFraction (negative : Bool) (whole : List Char) (s : List Char) : Outcome Data :=
  match s with
  | '.' :: cs =>
    let (ds, rest) := takeDigits cs
    if ds = [] then
      match rest with
      | [] => failNext .endInValue []
      | _ :: _ => failNext .badNumber rest
    else
      let digits := Text.digitsValue (whole ++ ds)
      match rest with
      | c :: more =>
        if c = 'e' ∨ c = 'E' then
          match takeExponent more with
          | .error e => .error e
          | .ok (e, rest) => makeFraction negative digits (e - ds.length) rest
        else makeFraction negative digits (-(ds.length : Int)) rest
      | [] => makeFraction negative digits (-(ds.length : Int)) []
  | c :: cs =>
    if c = 'e' ∨ c = 'E' then
      match takeExponent cs with
      | .error e => .error e
      | .ok (e, rest) => makeFraction negative (Text.digitsValue whole) e rest
    else makeWhole (c :: cs)
  | [] => makeWhole []
where
  /-- A number without point and exponent. -/
  makeWhole (rest : List Char) : Outcome Data :=
    let n := Text.digitsValue whole
    if negative then
      if 0 < n ∧ n ≤ Nat.pow 2 63 then .ok (.integer (-(n : Int)), rest)
      else makeFraction true n 0 rest
    else if n < Text.wordLimit then .ok (.integer n, rest)
    else makeFraction false n 0 rest

/-- A number after its sign. -/
def takeNumber (negative : Bool) (s : List Char) : Outcome Data :=
  match s with
  | [] => failAt .endInValue []
  | '0' :: cs =>
    match cs with
    | c :: _ => if Text.isDigit c then failNext .badNumber cs else takeFraction negative ['0'] cs
    | [] => takeFraction negative ['0'] []
  | c :: cs =>
    if Text.isDigit c then
      let (ds, rest) := takeDigits (c :: cs)
      takeFraction negative ds rest
    else failNext .badNumber (c :: cs)

/-! ## Strings -/

/-- The value of a hexadecimal digit. -/
def hexValue? (c : Char) : Option Nat :=
  if Text.isDigit c then some (c.toNat - '0'.toNat)
  else if 'a' ≤ c ∧ c ≤ 'f' then some (c.toNat - 'a'.toNat + 10)
  else if 'A' ≤ c ∧ c ≤ 'F' then some (c.toNat - 'A'.toNat + 10)
  else none

/-- The value of hexadecimal digits. -/
def hexValue : List Char → Option Nat
  | [] => some 0
  | ds => ds.foldl (fun n? c => do return (← n?) * 16 + (← hexValue? c)) (some 0)

/-- Four hexadecimal digits. -/
def takeHex (s : List Char) : Outcome Nat :=
  match s with
  | a :: b :: c :: d :: rest =>
    match hexValue [a, b, c, d] with
    | some n => .ok (n, rest)
    | none => failAt .badEscape rest
  | _ => failAt .endInString []

/-- The second half of a surrogate pair whose first half is `high`. -/
def takeLowHalf (high : Nat) (s : List Char) : Outcome Char :=
  match s with
  | [] => failAt .endInString []
  | '\\' :: [] => failAt .endInString []
  | '\\' :: 'u' :: cs =>
    match takeHex cs with
    | .error e => .error e
    | .ok (low, rest) =>
      if 0xDC00 ≤ low ∧ low ≤ 0xDFFF then
        .ok (Char.ofNat ((high - 0xD800) * 1024 + (low - 0xDC00) + 0x10000), rest)
      else failAt .loneSurrogate rest
  | '\\' :: cs => failNext .brokenSurrogate cs
  | cs => failNext .brokenSurrogate cs

/-- The character of an escape, after its backslash. -/
def takeEscape (s : List Char) : Outcome Char :=
  match s with
  | [] => failAt .endInString []
  | '"' :: cs => .ok ('"', cs)
  | '\\' :: cs => .ok ('\\', cs)
  | '/' :: cs => .ok ('/', cs)
  | 'b' :: cs => .ok ('\x08', cs)
  | 'f' :: cs => .ok ('\x0c', cs)
  | 'n' :: cs => .ok ('\n', cs)
  | 'r' :: cs => .ok ('\r', cs)
  | 't' :: cs => .ok ('\t', cs)
  | 'u' :: cs =>
    match takeHex cs with
    | .error e => .error e
    | .ok (n, rest) =>
      if 0xDC00 ≤ n ∧ n ≤ 0xDFFF then failAt .loneSurrogate rest
      else if 0xD800 ≤ n ∧ n ≤ 0xDBFF then takeLowHalf n rest
      else .ok (Char.ofNat n, rest)
  | c :: cs => failNext .badEscape (c :: cs)

/-- The rest of a string after its opening quote; `done` holds what was read, the last
character first. The fuel is at least the length of the text. -/
def takeString : Nat → List Char → List Char → Outcome String
  | 0, _, s => failAt .endInString s
  | fuel + 1, done, s =>
    match s with
    | [] => failAt .endInString []
    | '"' :: cs => .ok (String.ofList done.reverse, cs)
    | '\\' :: cs =>
      match takeEscape cs with
      | .error e => .error e
      | .ok (c, rest) => takeString fuel (c :: done) rest
    | c :: cs =>
      if c.toNat < 0x20 then failNext .controlCharacter (c :: cs)
      else takeString fuel (c :: done) cs

/-! ## Values -/

/-- How deep lists and objects may be nested. -/
def depthLimit : Nat := 128

mutual

/-- A value. `depth` counts down the nesting that is left. -/
def takeValue : Nat → Nat → List Char → Outcome Data
  | 0, _, s => failAt .endInValue s
  | fuel + 1, depth, s =>
    match skipBlank s with
    | [] => failNext .endInValue []
    | 'n' :: cs => (takeWord ['u', 'l', 'l'] cs).map fun rest => (.null, rest)
    | 't' :: cs => (takeWord ['r', 'u', 'e'] cs).map fun rest => (.boolean true, rest)
    | 'f' :: cs => (takeWord ['a', 'l', 's', 'e'] cs).map fun rest => (.boolean false, rest)
    | '-' :: cs => takeNumber true cs
    | '"' :: cs => (takeString (cs.length + 1) [] cs).map fun (s, rest) => (.text s, rest)
    | '[' :: cs =>
      if depth ≤ 1 then failNext .tooDeep ('[' :: cs)
      else (takeItems fuel (depth - 1) true [] cs).map fun (items, rest) => (.list items, rest)
    | c :: cs =>
      if c = Char.ofNat 0x7B then
        if depth ≤ 1 then failNext .tooDeep (c :: cs)
        else (takeEntries fuel (depth - 1) true Dict.empty cs).map fun (d, rest) =>
          (.table d.toList, rest)
      else if Text.isDigit c then takeNumber false (c :: cs)
      else failNext .valueExpected (c :: cs)

/-- The items of a list that are left; `done` holds those read, the last one first. -/
def takeItems : Nat → Nat → Bool → List Data → List Char → Outcome (List Data)
  | 0, _, _, _, s => failAt .endInList s
  | fuel + 1, depth, first, done, s =>
    match skipBlank s with
    | [] => failNext .endInList []
    | ']' :: cs => .ok (done.reverse, cs)
    | c :: cs =>
      let item (s : List Char) : Outcome (List Data) :=
        match takeValue fuel depth s with
        | .error e => .error e
        | .ok (d, rest) => takeItems fuel depth false (d :: done) rest
      if first then item (c :: cs)
      else if c = ',' then
        match skipBlank cs with
        | [] => failNext .endInValue []
        | ']' :: more => failNext .trailingComma (']' :: more)
        | more => item more
      else failNext .listCommaOrEnd (c :: cs)

/-- The entries of an object that are left. -/
def takeEntries : Nat → Nat → Bool → Dict Data → List Char → Outcome (Dict Data)
  | 0, _, _, _, s => failAt .endInObject s
  | fuel + 1, depth, first, done, s =>
    let closing := Char.ofNat 0x7D
    match skipBlank s with
    | [] => failNext .endInObject []
    | c :: cs =>
      let entry (s : List Char) : Outcome (Dict Data) :=
        match takeString (s.length + 1) [] s with
        | .error e => .error e
        | .ok (key, rest) =>
          match skipBlank rest with
          | [] => failNext .endInObject []
          | ':' :: more =>
            match takeValue fuel depth more with
            | .error e => .error e
            | .ok (d, rest) => takeEntries fuel depth false (done.insert key d) rest
          | more => failNext .colonExpected more
      if c = closing then .ok (done, cs)
      else if first then
        if c = '"' then entry cs else failNext .keyExpected (c :: cs)
      else if c = ',' then
        match skipBlank cs with
        | [] => failNext .endInValue []
        | '"' :: more => entry more
        | d :: more =>
          if d = closing then failNext .trailingComma (d :: more)
          else failNext .keyExpected (d :: more)
      else failNext .objectCommaOrEnd (c :: cs)

end

/-- Reads a whole text. -/
def read (text : String) : Except String Data :=
  let s := text.toList
  match takeValue (2 * s.length + 2) depthLimit s with
  | .error e => .error (e.message s)
  | .ok (d, rest) =>
    match skipBlank rest with
    | [] => .ok d
    | more => .error (Failure.message s ⟨.trailingCharacters, more, 1⟩)

/-! ## Writing -/

/-- Four digits in base sixteen. -/
def fourHex (n : Nat) : List Char :=
  let ds := Text.hexDigits n
  List.replicate (4 - ds.length) '0' ++ ds

/-- A character inside a string. -/
def writeChar (c : Char) : List Char :=
  match c with
  | '"' => ['\\', '"']
  | '\\' => ['\\', '\\']
  | '\n' => ['\\', 'n']
  | '\r' => ['\\', 'r']
  | '\t' => ['\\', 't']
  | c => if c.toNat < 0x20 then ['\\', 'u'] ++ fourHex c.toNat else [c]

/-- A string in quotes. -/
def writeString (s : String) : String :=
  String.ofList ('"' :: s.toList.flatMap writeChar ++ ['"'])

mutual

/-- A tree as JSON on one line. -/
def write : Data → String
  | .null => "null"
  | .boolean b => if b then "true" else "false"
  | .integer n => toString n
  | .fraction x => Dialect.json.numerals.write x
  | .text s => writeString s
  | .list items => "[" ++ joined "," (writeAll items) ++ "]"
  | .table entries => "\x7b" ++ joined "," (writeEntries entries) ++ "\x7d"

def writeAll : List Data → List String
  | [] => []
  | d :: rest => write d :: writeAll rest

def writeEntries : List (String × Data) → List String
  | [] => []
  | (k, d) :: rest => (writeString k ++ ":" ++ write d) :: writeEntries rest

end

end Toolchain.Json
