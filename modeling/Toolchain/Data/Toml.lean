import Toolchain.Data.Json

/-!
# Reading TOML

`Toml.read?` reads a text into a data tree, or not at all: what is wrong with a text that is
no TOML is not said.

## Building the tree

A document is a sequence of headers and assignments, and the tables that they name are built
while reading. Each table remembers how it came to be:

  * **implicit**: it was only passed through on the way to another one;
  * **dotted**: it was passed through by a dotted key.

A header may take over a table that is implicit and not dotted; a dotted key may extend a
table that only dotted keys made; an assignment may not name a key twice. `alter` walks down
a path under these rules and applies a change at its end.

The entries of a table keep the order in which they were first written, except that a table
which is taken over moves to the end.

## Values

Numbers, dates and words are read from the longest run of characters that one of them can
hold. A date or a time is a table with one entry, `dateKey`, that holds its text.
-/

namespace Toolchain.Toml

/-- The outcome of reading something: its value and what is left. -/
abbrev Outcome (α : Type) := Option (α × List Char)

/-! ## Characters -/

/-- A blank within a line. -/
def isSpace (c : Char) : Bool := c == ' ' || c == '\t'

/-- A character of a comment or a string: no control except the tab. -/
def isPlain (c : Char) : Bool := c == '\t' || (0x20 ≤ c.toNat && c.toNat != 0x7F)

/-- A character of a key without quotes. -/
def isBareKeyChar (c : Char) : Bool := c.isAlphanum || c == '_' || c == '-'

/-- A character of a number, a date or a word. -/
def isScalarChar (c : Char) : Bool :=
  c.isAlphanum || c == '_' || c == '-' || c == '+' || c == '.' || c == ':'

def skipSpace (s : List Char) : List Char := s.dropWhile isSpace

/-- The rest after the end of a line. -/
def takeNewline? : List Char → Option (List Char)
  | '\n' :: cs => some cs
  | '\r' :: '\n' :: cs => some cs
  | _ => none

/-- The rest of a line that may hold a comment, and its end. -/
def takeLineEnd? (s : List Char) : Option (List Char) :=
  let rest := match skipSpace s with
    | '#' :: cs => cs.dropWhile isPlain
    | cs => cs
  match rest with
  | [] => some []
  | cs => takeNewline? cs

/-- Blanks, line ends and comments, as they may stand inside a list. The flag says whether a
comment is open. -/
def skipTrivia : Bool → List Char → Option (List Char)
  | _, [] => some []
  | comment, c :: cs =>
    if c = '\n' then skipTrivia false cs
    else if c = '\r' then
      match cs with
      | '\n' :: _ => skipTrivia false cs
      | _ => none
    else if comment then if isPlain c then skipTrivia true cs else none
    else if isSpace c then skipTrivia false cs
    else if c = '#' then skipTrivia true cs
    else some (c :: cs)

/-! ## Strings -/

/-- The character of an escape, after its backslash. -/
def takeEscape : List Char → Outcome Char
  | 'b' :: cs => some ('\x08', cs)
  | 't' :: cs => some ('\t', cs)
  | 'n' :: cs => some ('\n', cs)
  | 'f' :: cs => some ('\x0c', cs)
  | 'r' :: cs => some ('\r', cs)
  | '"' :: cs => some ('"', cs)
  | '\\' :: cs => some ('\\', cs)
  | 'u' :: cs => takeCode 4 cs
  | 'U' :: cs => takeCode 8 cs
  | _ => none
where
  /-- A character by its code, which has to be one of a character. -/
  takeCode (n : Nat) (s : List Char) : Outcome Char :=
    let ds := s.take n
    if ds.length < n then none
    else
      match Json.hexValue ds with
      | some code => if code.isValidChar then some (Char.ofNat code, s.drop n) else none
      | none => none

/-- The rest of a string on one line. `done` holds what was read, the last character first.
The fuel is at least the length of the text. -/
def takeBasic : Nat → List Char → List Char → Outcome String
  | 0, _, _ => none
  | fuel + 1, done, s =>
    match s with
    | '"' :: cs => some (String.ofList done.reverse, cs)
    | '\\' :: cs =>
      match takeEscape cs with
      | some (c, rest) => takeBasic fuel (c :: done) rest
      | none => none
    | c :: cs => if isPlain c then takeBasic fuel (c :: done) cs else none
    | [] => none

/-- The rest of a literal on one line. -/
def takeLiteral (s : List Char) : Outcome String :=
  let text := s.takeWhile fun c => c != '\'' && isPlain c
  match s.drop text.length with
  | '\'' :: rest => some (String.ofList text, rest)
  | _ => none

/-- The quotes at the beginning of what is left of a text over several lines: up to two are
part of it, three end it, and up to two before those are part of it as well. -/
inductive Quotes
  | inside (n : Nat)
  | closing (n : Nat)
  | tooMany

def Quotes.ofCount (n : Nat) : Quotes :=
  if n ≤ 2 then .inside n else if n ≤ 5 then .closing (n - 3) else .tooMany

/-- The rest of a string over several lines. A backslash at the end of a line takes the line
end and all blanks after it away. -/
def takeMultiBasic : Nat → List Char → List Char → Outcome String
  | 0, _, _ => none
  | fuel + 1, done, s =>
    match s with
    | [] => none
    | '"' :: _ =>
      let n := (s.takeWhile (· == '"')).length
      match Quotes.ofCount n with
      | .inside n => takeMultiBasic fuel (List.replicate n '"' ++ done) (s.drop n)
      | .closing k => some (String.ofList (List.replicate k '"' ++ done).reverse, s.drop n)
      | .tooMany => none
    | '\\' :: cs =>
      match takeNewline? (skipSpace cs) with
      | some rest =>
        takeMultiBasic fuel done
          (rest.dropWhile fun c => isSpace c || c == '\n' || c == '\r')
      | none =>
        match takeEscape cs with
        | some (c, rest) => takeMultiBasic fuel (c :: done) rest
        | none => none
    | c :: cs =>
      match takeNewline? s with
      | some rest => takeMultiBasic fuel ('\n' :: done) rest
      | none => if isPlain c then takeMultiBasic fuel (c :: done) cs else none

/-- The rest of a literal over several lines. -/
def takeMultiLiteral : Nat → List Char → List Char → Outcome String
  | 0, _, _ => none
  | fuel + 1, done, s =>
    match s with
    | [] => none
    | '\'' :: _ =>
      let n := (s.takeWhile (· == '\'')).length
      match Quotes.ofCount n with
      | .inside n => takeMultiLiteral fuel (List.replicate n '\'' ++ done) (s.drop n)
      | .closing k => some (String.ofList (List.replicate k '\'' ++ done).reverse, s.drop n)
      | .tooMany => none
    | c :: cs =>
      match takeNewline? s with
      | some rest => takeMultiLiteral fuel ('\n' :: done) rest
      | none => if isPlain c then takeMultiLiteral fuel (c :: done) cs else none

/-- A line end right after the opening quotes is not part of the text. -/
def dropFirstNewline (s : List Char) : List Char := (takeNewline? s).getD s

/-- A string of any of the four forms. -/
def takeString (s : List Char) : Outcome String :=
  let fuel := s.length + 1
  match s with
  | '"' :: '"' :: '"' :: cs => takeMultiBasic fuel [] (dropFirstNewline cs)
  | '"' :: cs => takeBasic fuel [] cs
  | '\'' :: '\'' :: '\'' :: cs => takeMultiLiteral fuel [] (dropFirstNewline cs)
  | '\'' :: cs => takeLiteral cs
  | _ => none

/-! ## Numbers -/

/-- Digits with single underscores between them; the flag says that a digit has to come. -/
def digitRun (ok : Char → Bool) : Bool → List Char → Option (List Char)
  | wanted, [] => if wanted then none else some []
  | wanted, c :: cs =>
    if ok c then (digitRun ok false cs).map (c :: ·)
    else if c = '_' ∧ wanted = false then digitRun ok true cs
    else none

/-- The whole part of a decimal number: no zero in front of other digits. -/
def wholePart? (s : List Char) : Option (List Char) :=
  match digitRun Text.isDigit true s with
  | some ('0' :: d :: _) => if Text.isDigit d then none else none
  | ds => ds

/-- A number in a base, after its mark. -/
def inBase? (base : Nat) (ok : Char → Bool) (s : List Char) : Option Int :=
  match digitRun ok true s with
  | none => none
  | some ds =>
    let n := ds.foldl (fun n d => n * base + (Json.hexValue? d).getD 0) 0
    if n < Nat.pow 2 63 then some n else none

/-- The sign in front of a number, and what is left. -/
def takeSign : List Char → Bool × List Char
  | '-' :: cs => (true, cs)
  | '+' :: cs => (false, cs)
  | cs => (false, cs)

/-- A whole number of 64 bits with sign. -/
def integer? (s : List Char) : Option Int :=
  match s with
  | '0' :: 'x' :: cs => inBase? 16 (fun c => (Json.hexValue? c).isSome) cs
  | '0' :: 'o' :: cs => inBase? 8 (fun c => '0' ≤ c && c ≤ '7') cs
  | '0' :: 'b' :: cs => inBase? 2 (fun c => c == '0' || c == '1') cs
  | _ =>
    let (negative, cs) := takeSign s
    match wholePart? cs with
    | none => none
    | some ds =>
      let n := Text.digitsValue ds
      if negative then if n ≤ Nat.pow 2 63 then some (-(n : Int)) else none
      else if n < Nat.pow 2 63 then some n else none

/-- The exponent of a fraction: nothing, or `e` and a number. -/
def exponent? : List Char → Option Int
  | [] => some 0
  | c :: cs =>
    if c = 'e' ∨ c = 'E' then
      let (negative, ds) := takeSign cs
      (digitRun Text.isDigit true ds).map fun ds =>
        let n : Int := Text.digitsValue ds
        if negative then -n else n
    else none

/-- A number with a point or an exponent. One that is too large is no number, unless it is
negative. -/
def fraction? (s : List Char) : Option Fraction :=
  let (negative, cs) := takeSign s
  if cs = "inf".toList then some (.infinite negative)
  else if cs = "nan".toList then some .notANumber
  else
    let isMark (c : Char) : Bool := c == '.' || c == 'e' || c == 'E'
    let whole := cs.takeWhile (!isMark ·)
    let rest := cs.drop whole.length
    let parts : Option (List Char × Int) :=
      match rest with
      | [] => none
      | '.' :: more =>
        let places := more.takeWhile (!isMark ·)
        match digitRun Text.isDigit true places, exponent? (more.drop places.length) with
        | some ds, some e => some (ds, e)
        | _, _ => none
      | more => (exponent? more).map fun e => ([], e)
    match wholePart? whole, parts with
    | some ds, some (places, e) =>
      let digits := Text.digitsValue (ds ++ places)
      let exponent := e - places.length
      match Binary.nearest? digits exponent with
      | some _ => some (.finite negative digits exponent)
      | none => if negative then some (.infinite true) else none
    | _, _ => none

/-! ## Dates and times -/

/-- The key of the one entry that a date or a time is read as. -/
def dateKey : String := "$__toml_private_datetime"

/-- A number of exactly `n` digits between two bounds, and what is left. -/
def takeFixed (n low high : Nat) (s : List Char) : Outcome Nat :=
  let ds := s.take n
  let v := Text.digitsValue ds
  if ds.length = n ∧ ds.all Text.isDigit ∧ low ≤ v ∧ v ≤ high then some (v, s.drop n) else none

/-- The days of a month. -/
def daysIn (year month : Nat) : Nat :=
  if month = 2 then
    if year % 4 = 0 ∧ (year % 100 ≠ 0 ∨ year % 400 = 0) then 29 else 28
  else if month = 4 ∨ month = 6 ∨ month = 9 ∨ month = 11 then 30 else 31

/-- A number with zeros in front, `n` digits long. -/
def fixed (n v : Nat) : List Char :=
  let ds := Text.decimal v
  List.replicate (n - ds.length) '0' ++ ds

/-- A date, as it is written again. -/
def takeDate (s : List Char) : Outcome (List Char) :=
  match takeFixed 4 0 9999 s with
  | some (year, '-' :: s) =>
    match takeFixed 2 1 12 s with
    | some (month, '-' :: s) =>
      match takeFixed 2 1 (daysIn year month) s with
      | some (day, s) => some (fixed 4 year ++ '-' :: fixed 2 month ++ '-' :: fixed 2 day, s)
      | none => none
    | _ => none
  | _ => none

/-- The part of a second: nine digits are kept, and zeros at the end are not written. -/
def takeSecondPart (s : List Char) : Outcome (List Char) :=
  match s with
  | '.' :: cs =>
    let ds := cs.takeWhile Text.isDigit
    if ds = [] then none
    else
      let kept := ((ds.take 9).reverse.dropWhile (· == '0')).reverse
      some (if kept = [] then [] else '.' :: kept, cs.drop ds.length)
  | cs => some ([], cs)

/-- A time of day, as it is written again. -/
def takeTime (s : List Char) : Outcome (List Char) :=
  match takeFixed 2 0 23 s with
  | some (hour, ':' :: s) =>
    match takeFixed 2 0 59 s with
    | some (minute, ':' :: s) =>
      match takeFixed 2 0 60 s with
      | some (second, s) =>
        (takeSecondPart s).map fun (part, rest) =>
          (fixed 2 hour ++ ':' :: fixed 2 minute ++ ':' :: fixed 2 second ++ part, rest)
      | none => none
    | _ => none
  | _ => none

/-- The distance from universal time that may follow a time. -/
def offset? (s : List Char) : Option (List Char) :=
  match s with
  | [] => some []
  | ['Z'] => some ['Z']
  | ['z'] => some ['Z']
  | sign :: cs =>
    if sign = '+' ∨ sign = '-' then
      match takeFixed 2 0 23 cs with
      | some (hour, ':' :: cs) =>
        match takeFixed 2 0 59 cs with
        | some (minute, []) => some (sign :: fixed 2 hour ++ ':' :: fixed 2 minute)
        | _ => none
      | _ => none
    else none

/-- A time with its offset, which is all of the text. -/
def timeWithOffset? (s : List Char) : Option (List Char) :=
  match takeTime s with
  | some (time, rest) => (offset? rest).map (time ++ ·)
  | none => none

/-- The text of a date, a time or both. `later` is what follows a blank after a bare date,
as far as a time could reach. The flag of the answer says whether it was used. -/
def dateTime? (s later : List Char) : Option (List Char × Bool) :=
  match takeDate s with
  | some (date, []) =>
    match timeWithOffset? later with
    | some time => some (date ++ 'T' :: time, true)
    | none => some (date, false)
  | some (date, mark :: rest) =>
    if mark = 'T' ∨ mark = 't' then
      (timeWithOffset? rest).map fun time => (date ++ 'T' :: time, false)
    else none
  | none =>
    match takeTime s with
    | some (time, []) => some (time, false)
    | _ => none

/-- A number, a date or a word. -/
def takeScalar (s : List Char) : Outcome Data :=
  let scalar := s.takeWhile isScalarChar
  let rest := s.drop scalar.length
  if scalar = "true".toList then some (.boolean true, rest)
  else if scalar = "false".toList then some (.boolean false, rest)
  else
    let later := match rest with
      | ' ' :: more => more.takeWhile isScalarChar
      | _ => []
    match dateTime? scalar later with
    | some (text, usedLater) =>
      some (.table [(dateKey, .text (String.ofList text))],
        if usedLater then rest.drop (later.length + 1) else rest)
    | none =>
      match integer? scalar with
      | some n => some (.integer n, rest)
      | none =>
        match fraction? scalar with
        | some x => some (.fraction x, rest)
        | none => none

/-! ## Tables under construction -/

/-- What a key stands for while the tree is built. -/
inductive Item
  | value (d : Data)
  | table (entries : List (String × Item)) (implicit dotted : Bool)
  | tables (all : List (List (String × Item)))
  deriving Inhabited

/-- The entries of a table under construction. -/
abbrev Entries := List (String × Item)

/-- Replaces the item of a key where it stands. -/
def replaceItem (key : String) (item : Item) (entries : Entries) : Entries :=
  entries.map fun e => if e.1 = key then (key, item) else e

/-- Walks down a path and applies a change to the table at its end. Tables that are missing
are made on the way, and a list of tables stands for its last one. `dotted` says whether the
path is that of a dotted key; `isDotted` whether the table at hand was made by one. -/
def alter {β : Type} (dotted : Bool) (change : Entries → Bool → Option (Entries × β)) :
    List String → Entries → Bool → Option (Entries × β)
  | [], entries, isDotted => change entries isDotted
  | key :: path, entries, _ =>
    match findEntry key entries with
    | none =>
      (alter dotted change path [] dotted).map fun (es, b) =>
        (entries ++ [(key, .table es true dotted)], b)
    | some (.value _) => none
    | some (.table es implicit wasDotted) =>
      if dotted ∧ implicit = false then none
      else
        (alter dotted change path es wasDotted).map fun (es, b) =>
          (replaceItem key (.table es implicit wasDotted) entries, b)
    | some (.tables all) =>
      match all.getLast? with
      | none => none
      | some last =>
        (alter dotted change path last false).map fun (es, b) =>
          (replaceItem key (.tables (all.dropLast ++ [es])) entries, b)

/-- Assigns a value under a dotted key. -/
def assign (path : List String) (key : String) (d : Data) (entries : Entries) : Option Entries :=
  let change (es : Entries) (isDotted : Bool) : Option (Entries × Unit) :=
    if isDotted = path.isEmpty then none
    else
      match findEntry key es with
      | some _ => none
      | none => some (es ++ [(key, .value d)], ())
  (alter true change path entries false).map Prod.fst

mutual

/-- What was built as a data tree. -/
def Item.toData : Item → Data
  | .value d => d
  | .table entries _ _ => .table (entriesToData entries)
  | .tables all => .list (tablesToData all)

def entriesToData : List (String × Item) → List (String × Data)
  | [] => []
  | (k, item) :: rest => (k, item.toData) :: entriesToData rest

def tablesToData : List (List (String × Item)) → List Data
  | [] => []
  | entries :: rest => .table (entriesToData entries) :: tablesToData rest

end

/-! ## Keys and values -/

/-- One part of a key. -/
def takeSimpleKey (s : List Char) : Outcome String :=
  match s with
  | '"' :: cs => takeBasic (cs.length + 1) [] cs
  | '\'' :: cs => takeLiteral cs
  | cs =>
    let key := cs.takeWhile isBareKeyChar
    if key = [] then none else some (String.ofList key, cs.drop key.length)

/-- A key with its dots, and the blanks after it. The fuel is at least the length of the
text. -/
def takeKey : Nat → List Char → Outcome (List String)
  | 0, _ => none
  | fuel + 1, s =>
    match takeSimpleKey (skipSpace s) with
    | none => none
    | some (key, rest) =>
      match skipSpace rest with
      | '.' :: more => (takeKey fuel more).map fun (keys, rest) => (key :: keys, rest)
      | more => some ([key], more)

/-- How deep lists and inline tables may be nested, and how long a dotted key may be. -/
def depthLimit : Nat := 80

mutual

/-- A value. `depth` counts down the nesting that is left. -/
def takeValue : Nat → Nat → List Char → Outcome Data
  | 0, _, _ => none
  | fuel + 1, depth, s =>
    match s with
    | '[' :: cs =>
      if depth ≤ 1 then none
      else (takeItems fuel (depth - 1) [] cs).map fun (items, rest) => (.list items, rest)
    | c :: cs =>
      if c = Char.ofNat 0x7B then
        if depth ≤ 1 then none
        else
          match skipSpace cs with
          | d :: rest =>
            if d = Char.ofNat 0x7D then some (.table [], rest)
            else
              (takePairs fuel (depth - 1) [] (d :: rest)).map fun (entries, rest) =>
                (.table (entriesToData entries), rest)
          | [] => none
      else if c = '"' ∨ c = '\'' then (takeString (c :: cs)).map fun (t, rest) => (.text t, rest)
      else takeScalar (c :: cs)
    | [] => none

/-- The items of a list that are left; a comma may follow the last one. -/
def takeItems : Nat → Nat → List Data → List Char → Outcome (List Data)
  | 0, _, _, _ => none
  | fuel + 1, depth, done, s =>
    match skipTrivia false s with
    | some (']' :: rest) => some (done.reverse, rest)
    | some (c :: cs) =>
      match takeValue fuel depth (c :: cs) with
      | none => none
      | some (d, rest) =>
        match skipTrivia false rest with
        | some (',' :: rest) => takeItems fuel depth (d :: done) rest
        | some (']' :: rest) => some ((d :: done).reverse, rest)
        | _ => none
    | _ => none

/-- The assignments of an inline table that are left; no comma follows the last one. -/
def takePairs : Nat → Nat → Entries → List Char → Outcome Entries
  | 0, _, _, _ => none
  | fuel + 1, depth, done, s =>
    match takeKey (s.length + 1) s with
    | some (keys, '=' :: rest) =>
      if depthLimit ≤ keys.length then none
      else
        match takeValue fuel depth (skipSpace rest) with
        | none => none
        | some (d, rest) =>
          match assign keys.dropLast (keys.getLastD "") d done with
          | none => none
          | some entries =>
            match skipSpace rest with
            | ',' :: more => takePairs fuel depth entries more
            | c :: more => if c = Char.ofNat 0x7D then some (entries, more) else none
            | [] => none
    | _ => none

end

/-! ## Documents -/

/-- A document under construction: the tables that are complete, and the one whose
assignments are being read, with its path and whether it is one of a list. -/
structure Building where
  root : Entries := []
  current : Entries := []
  path : List String := []
  listed : Bool := false

namespace Building

/-- Puts the current table at its place. -/
def close (b : Building) : Option Entries :=
  match b.path.getLast? with
  | none => some b.current
  | some key =>
    let change (es : Entries) (_ : Bool) : Option (Entries × Unit) :=
      match findEntry key es, b.listed with
      | none, true => some (es ++ [(key, .tables [b.current])], ())
      | some (.tables all), true => some (replaceItem key (.tables (all ++ [b.current])) es, ())
      | none, false => some (es ++ [(key, .table b.current false false)], ())
      | _, _ => none
    (alter false change b.path.dropLast b.root false).map Prod.fst

/-- Begins the table of a header. A table that was only passed through is taken over. -/
def openTable (b : Building) (path : List String) : Option Building :=
  let key := path.getLastD ""
  let change (es : Entries) (_ : Bool) : Option (Entries × Entries) :=
    match findEntry key es with
    | none => some (es, [])
    | some (.table entries true false) => some (es.filter (·.1 ≠ key), entries)
    | some _ => none
  match b.close with
  | none => none
  | some root =>
    (alter false change path.dropLast root false).map fun (root, current) =>
      ⟨root, current, path, false⟩

/-- Begins the next table of a list. -/
def openListed (b : Building) (path : List String) : Option Building :=
  let key := path.getLastD ""
  let change (es : Entries) (_ : Bool) : Option (Entries × Unit) :=
    match findEntry key es with
    | none => some (es ++ [(key, .tables [])], ())
    | some (.tables _) => some (es, ())
    | some _ => none
  match b.close with
  | none => none
  | some root =>
    (alter false change path.dropLast root false).map fun (root, _) => ⟨root, [], path, true⟩

end Building

/-- A header with its brackets, and the end of its line. -/
def takeHeader (b : Building) (s : List Char) : Outcome Building :=
  let fuel := s.length + 1
  match s with
  | '[' :: '[' :: cs =>
    match takeKey fuel cs with
    | some (keys, ']' :: ']' :: rest) =>
      if depthLimit ≤ keys.length then none
      else
        match b.openListed keys, takeLineEnd? rest with
        | some b, some rest => some (b, rest)
        | _, _ => none
    | _ => none
  | '[' :: cs =>
    match takeKey fuel cs with
    | some (keys, ']' :: rest) =>
      if depthLimit ≤ keys.length then none
      else
        match b.openTable keys, takeLineEnd? rest with
        | some b, some rest => some (b, rest)
        | _, _ => none
    | _ => none
  | _ => none

/-- An assignment and the end of its line. -/
def takeAssignment (b : Building) (s : List Char) : Outcome Building :=
  match takeKey (s.length + 1) s with
  | some (keys, '=' :: rest) =>
    if depthLimit ≤ keys.length then none
    else
      match takeValue (2 * rest.length + 2) depthLimit (skipSpace rest) with
      | none => none
      | some (d, rest) =>
        match assign keys.dropLast (keys.getLastD "") d b.current, takeLineEnd? rest with
        | some current, some rest => some ({ b with current }, rest)
        | _, _ => none
  | _ => none

/-- The lines of a document that are left. -/
def takeLines : Nat → Building → List Char → Option Building
  | 0, _, _ => none
  | fuel + 1, b, s =>
    match skipSpace s with
    | [] => some b
    | '[' :: cs =>
      match takeHeader b ('[' :: cs) with
      | some (b, rest) => takeLines fuel b rest
      | none => none
    | c :: cs =>
      if c = '#' ∨ c = '\n' ∨ c = '\r' then
        match takeLineEnd? (c :: cs) with
        | some rest => takeLines fuel b rest
        | none => none
      else
        match takeAssignment b (c :: cs) with
        | some (b, rest) => takeLines fuel b rest
        | none => none

/-- Reads a document. A byte order mark may stand in front. -/
def read? (text : String) : Option Data :=
  let s := match text.toList with
    | '\uFEFF' :: cs => cs
    | cs => cs
  match takeLines (s.length + 1) {} s with
  | none => none
  | some b => b.close.map fun root => .table (entriesToData root)

end Toolchain.Toml
