import Toolchain.Machine.Printing

/-!
# Conditions

The utility `test`, also written `[`: conditions on texts, numbers and files. A condition of
one to four words is read by the number of its words, so that a word that looks like an
operator can be compared too; longer ones are joined by `-a` and `-o`.
-/

namespace Toolchain.Condition

/-- Why a condition has no value, as it is said. -/
abbrev Fault := String

/-- What a unary operator says about a file. -/
def fileTest? (t : FileTree) (cwd : Place) : String → Option (Path → Bool)
  | "-e" => some fun p => (t.status cwd p).toOption.isSome
  | "-f" => some (t.isFile cwd)
  | "-d" => some (t.isDir cwd)
  | "-r" | "-w" => some fun p => (t.status cwd p).toOption.isSome
  | "-x" => some fun p =>
    match t.status cwd p with
    | .ok (_, n) => runnable (FileTree.modeOf n)
    | .error _ => false
  | "-s" => some fun p =>
    match t.readBytes cwd p with
    | .ok bytes => !bytes.isEmpty
    | .error e => e == .isDirectory
  | "-L" | "-h" => some fun p =>
    match t.locate false cwd p with
    | .ok (.there _ (.link _)) => true
    | _ => false
  | _ => none

/-- A unary operator. -/
def unary? (p : Process) (op : String) : Option (String → Bool) :=
  match op with
  | "-n" => some (· ≠ "")
  | "-z" => some (· = "")
  | "-t" | "-b" | "-c" | "-p" | "-S" | "-g" | "-k" | "-u" => some fun _ => false
  | op => (fileTest? p.machine.files p.cwd op).map fun f s => f ⟨s⟩

/-- The number that a word is. -/
def number (v : Voice) (s : String) : Except Fault Int :=
  match Printing.readNumber s.toList with
  | (n, true) =>
    match s.toList with
    | '\'' :: _ | '"' :: _ => .error (v.choose ("Illegal number: " ++ s)
        (s ++ ": integer expression expected") ("invalid integer '" ++ s ++ "'"))
    | _ => .ok n
  | (_, false) =>
    .error (v.choose ("Illegal number: " ++ s) (s ++ ": integer expression expected")
      ("invalid integer '" ++ s ++ "'"))

/-- A comparison of numbers. -/
def numberTest? : String → Option (Int → Int → Bool)
  | "-eq" => some (· == ·)
  | "-ne" => some (· != ·)
  | "-lt" => some (· < ·)
  | "-le" => some (· ≤ ·)
  | "-gt" => some (· > ·)
  | "-ge" => some (· ≥ ·)
  | _ => none

/-- A binary operator. -/
def binary? (v : Voice) (op : String) : Option (String → String → Except Fault Bool) :=
  match op with
  | "=" | "==" => some fun a b => .ok (a == b)
  | "!=" => some fun a b => .ok (a != b)
  | "<" => some fun a b => .ok (a < b)
  | ">" => some fun a b => .ok (b < a)
  | op => (numberTest? op).map fun f a b => do return f (← number v a) (← number v b)

/-- What is said about words that are no condition. -/
def malformed (v : Voice) (word : String) : Fault :=
  v.choose (word ++ ": unexpected operator") "too many arguments"
    ("extra argument '" ++ word ++ "'")

/-- Conditions of up to three words. -/
def short (v : Voice) (p : Process) : List String → Except Fault Bool
  | [] => .ok false
  | [a] => .ok (a ≠ "")
  | ["!", a] => .ok (a = "")
  | [op, a] =>
    match unary? p op with
    | some f => .ok (f a)
    | none =>
      .error (v.choose (op ++ ": unexpected operator") (op ++ ": unary operator expected")
        ("missing argument after '" ++ a ++ "'"))
  | [a, op, b] =>
    match binary? v op with
    | some f => f a b
    | none =>
      match a, op, b, unary? p op with
      | "!", _, _, some f => .ok (!f b)
      | "(", _, ")", _ => .ok (op ≠ "")
      | _, "-a", _, _ => .ok (a ≠ "" && b ≠ "")
      | _, "-o", _, _ => .ok (a ≠ "" || b ≠ "")
      | _, _, _, _ =>
        .error (v.choose (op ++ ": unexpected operator") (op ++ ": binary operator expected")
          ("'" ++ op ++ "': binary operator expected"))
  | a :: _ => .error (malformed v a)

/-- The words before and after the first occurrence of an operator that is not the first
word. -/
def splitAt? (op : String) : List String → Option (List String × List String)
  | [] => none
  | a :: rest =>
    match rest with
    | b :: after =>
      if b = op then some ([a], after)
      else (splitAt? op rest).map fun (before, after) => (a :: before, after)
    | [] => none

/-- The value of a condition; the fuel bounds the number of joins. -/
def evaluate (v : Voice) (p : Process) : Nat → List String → Except Fault Bool
  | 0, words => short v p words
  | fuel + 1, words =>
    if words.length ≤ 3 then short v p words
    else
      match words with
      | "!" :: rest =>
        if rest.length = 3 then (evaluate v p fuel rest).map (!·)
        else joined fuel words
      | _ => joined fuel words
where
  /-- Conditions that are joined. -/
  joined (fuel : Nat) (words : List String) : Except Fault Bool :=
    match splitAt? "-o" words with
    | some (a, b) => do
      let x ← evaluate v p fuel a
      let y ← evaluate v p fuel b
      return x || y
    | none =>
      match splitAt? "-a" words with
      | some (a, b) => do
        let x ← evaluate v p fuel a
        let y ← evaluate v p fuel b
        return x && y
      | none =>
        match words with
        | "!" :: rest => (evaluate v p fuel rest).map (!·)
        | words => short v p words

/-- The words of a condition under a name: `[` is closed by `]`. -/
def wordsOf? (name : String) (args : List String) : Option (List String) :=
  if name = "[" then
    match args.getLast? with
    | some "]" => some args.dropLast
    | _ => none
  else some args

/-- The status of a condition, with a message if it has no value. -/
def run (v : Voice) (name : String) (args : List String) (p : Process) : Nat × Process :=
  match wordsOf? name args with
  | none => (2, p.report v (name ++ ": " ++ v.choose "missing ]" "missing `]'" "missing ']'"))
  | some words =>
    match evaluate v p words.length words with
    | .ok true => (0, p)
    | .ok false => (1, p)
    | .error message => (2, p.report v (name ++ ": " ++ message))

end Toolchain.Condition
