import Toolchain.Machine.Voice
import Toolchain.Text.Pad

/-!
# Printing with escapes and formats

`echo` prints its arguments between single spaces; `printf` prints a format, over and over
while arguments are left. Both know escapes such as `\n` and octal codes, which give bytes
that need not be text.

  * `unescape` — the bytes of a text with escapes.
  * `echoBytes` — what `echo` prints.
  * `printfRun` — what `printf` prints, its complaints and its status.
-/

namespace Toolchain.Printing

/-! ## Escapes -/

/-- Which escapes are read: whether an octal code has a zero in front of its three digits,
whether `\c` ends all output, and whether there are hexadecimal codes. -/
structure EscapeRule where
  zeroFirst : Bool
  ends : Bool
  hexadecimal : Bool
  deriving DecidableEq, Repr

/-- Bytes, and whether all output ends behind them. -/
structure Decoded where
  bytes : List UInt8 := []
  ended : Bool := false
  deriving DecidableEq, Repr, Inhabited

/-- The value of a digit in a base up to sixteen. -/
def digitValue? (base : Nat) (c : Char) : Option Nat :=
  let n :=
    if c.isDigit then c.toNat - '0'.toNat
    else if 'a' ≤ c ∧ c ≤ 'f' then c.toNat - 'a'.toNat + 10
    else if 'A' ≤ c ∧ c ≤ 'F' then c.toNat - 'A'.toNat + 10
    else 99
  if n < base then some n else none

/-- The number that at most `most` digits at the beginning of a text give, if there is one,
and the rest. -/
def leadingNumber? (base most : Nat) (s : List Char) : Option Nat × List Char :=
  let digits := (s.take most).takeWhile fun c => (digitValue? base c).isSome
  (if digits = [] then none
    else some (digits.foldl (fun n c => n * base + ((digitValue? base c).getD 0)) 0),
    s.drop digits.length)

/-- The bytes of a character. -/
def charBytes (c : Char) : List UInt8 := Utf8.write c.toString

/-- The byte of an escape that is one letter. -/
def letterEscape? : Char → Option UInt8
  | 'a' => some 7
  | 'b' => some 8
  | 'f' => some 12
  | 'n' => some 10
  | 'r' => some 13
  | 't' => some 9
  | 'v' => some 11
  | '\\' => some 92
  | _ => none

/-- What an escape gives, the backslash taken away, and the rest. -/
def escapeAt (rule : EscapeRule) (s : List Char) : Decoded × List Char :=
  match s with
  | [] => ({ bytes := [92] }, [])
  | c :: rest =>
    let unknown : Decoded := { bytes := 92 :: charBytes c }
    match letterEscape? c with
    | some b => ({ bytes := [b] }, rest)
    | none =>
      if c = 'c' ∧ rule.ends then ({ ended := true }, rest)
      else if c = 'x' ∧ rule.hexadecimal then
        match leadingNumber? 16 2 rest with
        | (some n, rest) => ({ bytes := [n.toUInt8] }, rest)
        | (none, _) => (unknown, rest)
      else if c = 'e' ∧ rule.hexadecimal then ({ bytes := [27] }, rest)
      else if c = '0' ∧ rule.zeroFirst then
        let (n, rest) := leadingNumber? 8 3 rest
        ({ bytes := [(n.getD 0).toUInt8] }, rest)
      else if rule.zeroFirst then (unknown, rest)
      else
        match leadingNumber? 8 3 (c :: rest) with
        | (some n, rest) => ({ bytes := [n.toUInt8] }, rest)
        | (none, _) =>
          if c = '"' then ({ bytes := [34] }, rest) else (unknown, rest)

/-- Reads escapes; the fuel bounds the number of steps. -/
def unescapeWith (rule : EscapeRule) : Nat → List Char → Decoded
  | 0, _ => {}
  | _, [] => {}
  | fuel + 1, '\\' :: rest =>
    match escapeAt rule rest with
    | (⟨bytes, true⟩, _) => ⟨bytes, true⟩
    | (⟨bytes, false⟩, rest) =>
      let later := unescapeWith rule fuel rest
      ⟨bytes ++ later.bytes, later.ended⟩
  | fuel + 1, c :: rest =>
    let later := unescapeWith rule fuel rest
    ⟨charBytes c ++ later.bytes, later.ended⟩

/-- The bytes of a text with escapes. -/
def unescape (rule : EscapeRule) (s : String) : Decoded :=
  unescapeWith rule s.toList.length s.toList

/-! ## Echo -/

/-- The options of `echo`: whether the line is ended and whether escapes are read. -/
structure EchoOptions where
  newline : Bool := true
  escapes : Bool := false

/-- Takes options from the arguments. Only the plain shell reads escapes without being
asked, and it has no other option than `-n`. -/
def echoOptions (v : Voice) (o : EchoOptions) : List String → EchoOptions × List String
  | [] => (o, [])
  | arg :: rest =>
    match v, arg.toList with
    | .shell .standard .., ['-', 'n'] => ({ o with newline := false }, rest)
    | .shell .standard .., _ => (o, arg :: rest)
    | _, '-' :: letters =>
      if letters ≠ [] ∧ letters.all (fun c => c = 'n' || c = 'e' || c = 'E') then
        echoOptions v (letters.foldl (fun o c =>
          if c = 'n' then { o with newline := false }
          else { o with escapes := c == 'e' }) o) rest
      else (o, arg :: rest)
    | _, _ => (o, arg :: rest)

/-- What `echo` prints. -/
def echoBytes (v : Voice) (args : List String) : List UInt8 :=
  let start : EchoOptions := { escapes := v.choose true false false }
  let (o, words) := echoOptions v start args
  let text := joined " " words
  let d :=
    if o.escapes then unescape ⟨true, true, v.choose false true true⟩ text
    else { bytes := Utf8.write text }
  if d.ended ∨ !o.newline then d.bytes else d.bytes ++ [10]

/-! ## Formats -/

/-- A conversion of a format. -/
structure Conversion where
  left : Bool := false
  zeros : Bool := false
  plus : Bool := false
  space : Bool := false
  alternate : Bool := false
  width : Option Nat := none
  precision : Option Nat := none
  letter : Char := 's'
  deriving DecidableEq, Repr

/-- A run of `printf`: what is printed, what is complained about, the arguments that are left
and whether any was used. -/
structure Run where
  bytes : List UInt8 := []
  complaints : List String := []
  args : List String
  used : Bool := false
  ended : Bool := false

/-- Takes an argument; a missing one is empty. -/
def Run.take (r : Run) : String × Run :=
  match r.args with
  | [] => ("", { r with used := true })
  | a :: rest => (a, { r with args := rest, used := true })

/-- The number at the beginning of a text, in the notation of its first characters, and
whether all of the text was used. -/
def readNumber (s : List Char) : Int × Bool :=
  let unsigned (s : List Char) : Nat × Bool :=
    match s with
    | '0' :: 'x' :: rest | '0' :: 'X' :: rest =>
      let (n, rest) := leadingNumber? 16 rest.length rest
      (n.getD 0, rest.isEmpty && n.isSome)
    | '0' :: rest =>
      let (n, rest) := leadingNumber? 8 rest.length rest
      (n.getD 0, rest.isEmpty)
    | s =>
      let (n, rest) := leadingNumber? 10 s.length s
      (n.getD 0, rest.isEmpty && n.isSome)
  match s.dropWhile fun c => c = ' ' ∨ c = '\t' with
  | '-' :: rest => let (n, all) := unsigned rest; (-(n : Int), all)
  | '+' :: rest => let (n, all) := unsigned rest; (n, all)
  | '\'' :: c :: _ | '"' :: c :: _ => (c.toNat, true)
  | s => let (n, all) := unsigned s; (n, all)

/-- The complaint about an argument that is no number. -/
def notNumber (v : Voice) (arg : String) : String :=
  v.choose (arg ++ ": expected numeric value") (arg ++ ": invalid number")
    ("'" ++ arg ++ "': expected a numeric value")

/-- Takes a number. -/
def Run.takeNumber (v : Voice) (r : Run) : Int × Run :=
  let (arg, r) := r.take
  if arg = "" then (0, r)
  else
    let (n, all) := readNumber arg.toList
    (n, if all then r else { r with complaints := r.complaints ++ [notNumber v arg] })

/-- Bytes in a field of the conversion's width. -/
def Conversion.field (c : Conversion) (bytes : List UInt8) : List UInt8 :=
  let blanks := List.replicate ((c.width.getD 0) - bytes.length) (32 : UInt8)
  if c.left then bytes ++ blanks else blanks ++ bytes

/-- The digits of a number in a base. -/
def digitsOf (base : Nat) (upper : Bool) (n : Nat) : List Char :=
  (Nat.toDigits base n).map fun c => if upper then c.toUpper else c

/-- A number that a word of the machine cannot hold stands for its remainder. -/
def asWord (n : Int) : Nat := (n % Nat.pow 2 64).toNat

/-- A number as the conversion writes it. -/
def Conversion.number (c : Conversion) (n : Int) : List UInt8 :=
  let signed := c.letter = 'd' ∨ c.letter = 'i'
  let (sign, digits) : List Char × List Char :=
    if signed then
      (if n < 0 then ['-'] else if c.plus then ['+'] else if c.space then [' '] else [],
        digitsOf 10 false n.natAbs)
    else if c.letter = 'x' ∨ c.letter = 'X' then
      (if c.alternate ∧ n ≠ 0 then ['0', c.letter] else [],
        digitsOf 16 (c.letter = 'X') (asWord n))
    else if c.letter = 'o' then
      (if c.alternate then ['0'] else [], digitsOf 8 false (asWord n))
    else ([], digitsOf 10 false (asWord n))
  let least := match c.precision with
    | some p => p
    | none => if c.zeros ∧ !c.left then (c.width.getD 0) - sign.length else 0
  let zeros := List.replicate (least - digits.length) '0'
  c.field (Utf8.write (String.ofList (sign ++ zeros ++ digits)))

/-- What a conversion prints. -/
def Conversion.run (v : Voice) (c : Conversion) (r : Run) : Run :=
  let cut (bytes : List UInt8) : List UInt8 :=
    match c.precision with
    | some p => bytes.take p
    | none => bytes
  match c.letter with
  | 's' =>
    let (arg, r) := r.take
    { r with bytes := r.bytes ++ c.field (cut (Utf8.write arg)) }
  | 'c' =>
    let (arg, r) := r.take
    { r with bytes := r.bytes ++ c.field ((Utf8.write arg).take 1) }
  | 'b' =>
    let (arg, r) := r.take
    let d := unescape ⟨true, true, v.choose false true true⟩ arg
    { r with bytes := r.bytes ++ c.field (cut d.bytes), ended := d.ended }
  | 'd' | 'i' | 'u' | 'o' | 'x' | 'X' =>
    let (n, r) := r.takeNumber v
    { r with bytes := r.bytes ++ c.number n }
  | letter =>
    { r with
      complaints := r.complaints ++ ["%" ++ letter.toString ++ ": invalid directive"]
      ended := true }

/-- Reads the flags of a conversion. -/
def readFlags (c : Conversion) : List Char → Conversion × List Char
  | '-' :: rest => readFlags { c with left := true } rest
  | '0' :: rest => readFlags { c with zeros := true } rest
  | '+' :: rest => readFlags { c with plus := true } rest
  | ' ' :: rest => readFlags { c with space := true } rest
  | '#' :: rest => readFlags { c with alternate := true } rest
  | s => (c, s)

/-- Reads a width or a precision, which may be an argument. -/
def readSize (v : Voice) (r : Run) (s : List Char) : Option Int × Run × List Char :=
  match s with
  | '*' :: rest =>
    let (n, r) := r.takeNumber v
    (some n, r, rest)
  | s =>
    let (n, rest) := leadingNumber? 10 s.length s
    (n.map Int.ofNat, r, rest)

/-- Reads a conversion behind its percent sign, prints it, and answers what follows. -/
def convert (v : Voice) (r : Run) (s : List Char) : Run × List Char :=
  let (c, s) := readFlags {} s
  let (width, r, s) := readSize v r s
  let c := match width with
    | some n => { c with width := some n.natAbs, left := c.left || n < 0 }
    | none => c
  let (precision, r, s) : Option Nat × Run × List Char :=
    match s with
    | '.' :: s =>
      let (n, r, s) := readSize v r s
      (some ((n.getD 0).toNat), r, s)
    | s => (none, r, s)
  let c := { c with precision }
  match s with
  | [] =>
    ({ r with complaints := r.complaints ++ ["%: missing format character"], ended := true }, [])
  | letter :: s => ({ c with letter }.run v r, s)

/-- Prints a format once; the fuel bounds the number of its pieces. -/
def printOnce (v : Voice) : Nat → Run → List Char → Run
  | 0, r, _ => r
  | _, r, [] => r
  | fuel + 1, r, s =>
    if r.ended then r
    else
      match s with
      | [] => r
      | '%' :: '%' :: rest => printOnce v fuel { r with bytes := r.bytes ++ [37] } rest
      | '%' :: rest =>
        let (r, rest) := convert v r rest
        printOnce v fuel r rest
      | '\\' :: rest =>
        let (d, rest) := escapeAt ⟨false, true, v.choose false true true⟩ rest
        printOnce v fuel { r with bytes := r.bytes ++ d.bytes, ended := d.ended } rest
      | c :: rest =>
        printOnce v fuel { r with bytes := r.bytes ++ charBytes c } rest

/-- Prints a format while arguments are left; the fuel bounds the rounds. A format that uses
no argument is printed once. -/
def printRounds (v : Voice) (format : List Char) : Nat → Run → Run
  | 0, r => r
  | fuel + 1, r =>
    let before := r.args.length
    let r := printOnce v (format.length + 1) r format
    if r.ended ∨ r.args.isEmpty ∨ r.args.length = before then r
    else printRounds v format fuel r

/-- What `printf` does. -/
def printfRun (v : Voice) (format : String) (args : List String) : Run :=
  printRounds v format.toList (args.length + 1) { args }

example : (printfRun .program "a\\377b\\0%s|" ["x", "y"]).bytes =
    [97, 255, 98, 0, 120, 124, 97, 255, 98, 0, 121, 124] := by decide +kernel
example : (printfRun .program "%5d|%-3s|%03x" ["7", "b", "255"]).bytes =
    "    7|b  |0ff".toUTF8.toList := by decide +kernel

end Toolchain.Printing
