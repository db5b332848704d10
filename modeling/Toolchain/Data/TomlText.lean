import Toolchain.Data.Tree

/-!
# Writing TOML

`Toml.write` lays a table out as a document: the values of a table first, then its
sub-tables, each under a header and after a blank line.

## Strings

A string is written in the first style that needs no escape for it (`Style.forText`): in
double quotes, in single quotes, in three double quotes, in three single quotes. If none
does, it is escaped in double quotes, three of them where it has a line feed. Keys are the
same without the styles for several lines (`keyText`), and go bare where that is possible.

## Lists

A list stands on one line. In a `wide` document a list of two or more items has a line for
each item.
-/

namespace Toolchain.Toml

/-! ## Styles -/

/-- How a string is quoted. -/
inductive Style
  | basic
  | literal
  | multiBasic
  | multiLiteral
  deriving DecidableEq, Repr

/-- A control character other than the tab and the line feed. -/
def isControl (c : Char) : Bool :=
  (c.toNat < 0x20 && c != '\t' && c != '\n') || c.toNat == 0x7F

/-- The length of the longest run of `q`, given the length of the run that is open. -/
def longestRun (q : Char) : Nat → List Char → Nat
  | n, [] => n
  | n, c :: cs => if c = q then longestRun q (n + 1) cs else max n (longestRun q 0 cs)

/-- The style for a string. -/
def Style.forText (s : List Char) : Style :=
  let control := s.any isControl
  let newline := s.contains '\n'
  let backslash := s.contains '\\'
  if !control && !newline && !backslash && !s.contains '"' then .basic
  else if !control && !newline && !s.contains '\'' then .literal
  else if !control && !backslash && longestRun '"' 0 s ≤ 2 then .multiBasic
  else if !control && longestRun '\'' 0 s ≤ 2 then .multiLiteral
  else if newline then .multiBasic
  else .basic

/-- The style for a key, which is on one line. -/
def Style.forKey (s : List Char) : Style :=
  let control := s.any fun c => isControl c || c == '\n'
  if !control && !s.contains '\\' && !s.contains '"' then .basic
  else if !control && !s.contains '\'' then .literal
  else .basic

/-! ## Strings -/

/-- Four upper-case digits in base sixteen. -/
def fourHex (n : Nat) : List Char :=
  let ds := (Text.hexDigits n).map Char.toUpper
  List.replicate (4 - ds.length) '0' ++ ds

/-- The escape of a character that cannot stand between double quotes. -/
def escaped? (c : Char) : Option (List Char) :=
  match c with
  | '\x08' => some ['\\', 'b']
  | '\t' => some ['\\', 't']
  | '\n' => some ['\\', 'n']
  | '\x0c' => some ['\\', 'f']
  | '\r' => some ['\\', 'r']
  | '\\' => some ['\\', '\\']
  | c => if isControl c then some (['\\', 'u'] ++ fourHex c.toNat) else none

/-- What stands between the quotes: `run` quotes may follow one another before one is
escaped, of which `seen` have been written; `lines` says whether line feeds stay. -/
def basicBody (run : Nat) (lines : Bool) : Nat → List Char → List Char
  | _, [] => []
  | seen, c :: cs =>
    if c = '"' then
      if seen < run then '"' :: basicBody run lines (seen + 1) cs
      else ['\\', '"'] ++ basicBody run lines 0 cs
    else if c = '\n' ∧ lines then '\n' :: basicBody run lines 0 cs
    else (escaped? c).getD [c] ++ basicBody run lines 0 cs

/-- A text that stands on its own line after an opening quote if it has several lines. -/
def opened (s : List Char) : List Char := if s.contains '\n' then ['\n'] else []

/-- A string in a style. -/
def quoted (style : Style) (s : List Char) : List Char :=
  match style with
  | .basic => ['"'] ++ basicBody 0 false 0 s ++ ['"']
  | .literal => ['\''] ++ s ++ ['\'']
  | .multiBasic => ['"', '"', '"'] ++ opened s ++ basicBody 2 true 0 s ++ ['"', '"', '"']
  | .multiLiteral => ['\'', '\'', '\''] ++ opened s ++ s ++ ['\'', '\'', '\'']

/-- A string value. -/
def stringText (s : String) : String :=
  String.ofList (quoted (Style.forText s.toList) s.toList)

/-- A character of a key that needs no quotes. -/
def isPlainKeyChar (c : Char) : Bool := c.isAlphanum || c == '_' || c == '-'

/-- A key. -/
def keyText (k : String) : String :=
  if k ≠ "" ∧ k.toList.all isPlainKeyChar then k
  else String.ofList (quoted (Style.forKey k.toList) k.toList)

example : stringText "say \"hi\"" = "'say \"hi\"'" := by decide +kernel
example : stringText "a\nb" = "\"\"\"\na\nb\"\"\"" := by decide +kernel
example : stringText "a\"\"\"b\x27\x27\x27c" = "\"a\\\"\\\"\\\"b\x27\x27\x27c\"" := by decide +kernel
example : keyText "k-1" = "k-1" ∧ keyText "" = "\"\"" := by decide +kernel

/-! ## Documents -/

/-- A value after its `=`. -/
def valueText (wide : Bool) : Data → String
  | .null => ""
  | .boolean b => if b then "true" else "false"
  | .integer n => toString n
  | .fraction x => Dialect.toml.numerals.write x
  | .text s => stringText s
  | .list items =>
    if wide ∧ 2 ≤ items.length then
      "[\n" ++ String.join ((listTexts wide items).map fun t => "    " ++ t ++ ",\n") ++ "]"
    else "[" ++ joined ", " (listTexts wide items) ++ "]"
  | .table entries => "\x7b " ++ joined ", " (entryTexts wide entries) ++ " \x7d"
where
  /-- The items of a list. -/
  listTexts (wide : Bool) : List Data → List String
    | [] => []
    | d :: rest => valueText wide d :: listTexts wide rest
  /-- The entries of a table inside a list. -/
  entryTexts (wide : Bool) : List (String × Data) → List String
    | [] => []
    | (k, d) :: rest => (keyText k ++ " = " ++ valueText wide d) :: entryTexts wide rest

/-- Whether a table has nothing to lay out: a null is left out. -/
def isBlankTable (entries : List (String × Data)) : Bool :=
  entries.all fun e => match e.2 with
    | .null => true
    | _ => false

/-- The lines of the values of a table; a null has none. -/
def ownLines (wide : Bool) : List (String × Data) → String
  | [] => ""
  | (k, d) :: rest =>
    match d with
    | .null => ownLines wide rest
    | .table _ => ownLines wide rest
    | d => keyText k ++ " = " ++ valueText wide d ++ "\n" ++ ownLines wide rest

mutual

/-- A table with what is under it. A table that only holds tables needs no header. -/
def tableText (wide : Bool) (path : List String) : Data → String
  | .table entries =>
    let lines := ownLines wide entries
    (if lines ≠ "" ∨ isBlankTable entries then "\n[" ++ joined "." (path.map keyText) ++ "]\n" else "")
      ++ lines ++ subTables wide path entries
  | _ => ""

/-- The tables among the entries, each with its header. -/
def subTables (wide : Bool) (path : List String) : List (String × Data) → String
  | [] => ""
  | (k, d) :: rest => tableText wide (path ++ [k]) d ++ subTables wide path rest

end

/-- A document. Nothing stands before its first line. -/
def write (wide : Bool) (entries : List (String × Data)) : String :=
  let text := ownLines wide entries ++ subTables wide [] entries
  match text.toList with
  | '\n' :: rest => String.ofList rest
  | _ => text

end Toolchain.Toml
