import Toolchain.Machine.Printing

/-!
# Arithmetic of a shell

An arithmetic expression computes with whole numbers of a machine word. Its operators are
those of C in their usual order, with assignments to variables; a variable without a value
counts as zero.
-/

namespace Toolchain.Shell.Arithmetic

/-! ## Numbers -/

/-- A number as a signed machine word. -/
def wrap (n : Int) : Int := Int.bmod n (Nat.pow 2 64)

/-- Why an expression has no value. -/
inductive Fault
  | divisionByZero
  | malformed (rest : String)
  deriving DecidableEq, Repr

/-- What is left of an expression, and the variables. -/
structure Work where
  rest : List Char
  lookup : String → String
  assigned : List (String × Int) := []

/-- A step of the evaluation. -/
abbrev Evaluating := StateT Work (Except Fault)

/-- Fails at this place. -/
def malformed {α : Type} : Evaluating α := do
  throw (.malformed (String.ofList (← get).rest))

/-- Skips blanks. -/
def skip : Evaluating Unit :=
  modify fun w => { w with rest := w.rest.dropWhile fun c => c = ' ' ∨ c = '\t' ∨ c = '\n' }

/-- Takes a text if it comes next. -/
def takes (op : String) : Evaluating Bool := do
  skip
  match Text.dropStart? op.toList (← get).rest with
  | some rest =>
    modify ({ · with rest })
    pure true
  | none => pure false

/-- The number that a variable holds. -/
def valueOf (name : String) : Evaluating Int := do
  let w ← get
  match w.assigned.find? (·.1 = name) with
  | some (_, n) => pure n
  | none =>
    match Printing.readNumber (Text.trim (w.lookup name).toList) with
    | (n, true) => pure (wrap n)
    | (_, false) => if w.lookup name = "" then pure 0 else throw (.malformed (w.lookup name))

/-- Assigns to a variable. -/
def assign (name : String) (n : Int) : Evaluating Int := do
  modify fun w => { w with assigned := (name, n) :: w.assigned }
  pure n

/-! ## Operators -/

/-- Truth as a number. -/
def truth (b : Bool) : Int := if b then 1 else 0

/-- A binary operation. -/
def apply (op : String) (a b : Int) : Except Fault Int :=
  match op with
  | "*" => .ok (wrap (a * b))
  | "/" => if b = 0 then .error .divisionByZero else .ok (wrap (Int.tdiv a b))
  | "%" => if b = 0 then .error .divisionByZero else .ok (wrap (Int.tmod a b))
  | "+" => .ok (wrap (a + b))
  | "-" => .ok (wrap (a - b))
  | "<<" => .ok (wrap (a * Nat.pow 2 (b % 64).toNat))
  | ">>" => .ok (a / Nat.pow 2 (b % 64).toNat)
  | "<=" => .ok (truth (a ≤ b))
  | ">=" => .ok (truth (a ≥ b))
  | "<" => .ok (truth (a < b))
  | ">" => .ok (truth (a > b))
  | "==" => .ok (truth (a = b))
  | "!=" => .ok (truth (a ≠ b))
  | "&" => .ok (wrap (Printing.asWord a &&& Printing.asWord b : Nat))
  | "^" => .ok (wrap (Printing.asWord a ^^^ Printing.asWord b : Nat))
  | "|" => .ok (wrap (Printing.asWord a ||| Printing.asWord b : Nat))
  | "&&" => .ok (truth (a ≠ 0 && b ≠ 0))
  | _ => .ok (truth (a ≠ 0 || b ≠ 0))

/-- The binary operators, those that bind tighter first. -/
def levels : List (List String) :=
  [["*", "/", "%"], ["+", "-"], ["<<", ">>"], ["<=", ">=", "<", ">"], ["==", "!="], ["&"], ["^"],
    ["|"], ["&&"], ["||"]]

/-- An operator of a level that comes next. One that is part of a longer operator does not
count. -/
def operatorOf (ops : List String) (s : List Char) : Option String :=
  ops.find? fun op =>
    match Text.dropStart? op.toList s with
    | none => false
    | some rest =>
      let longer := match op, rest with
        | "<", '<' :: _ | ">", '>' :: _ | "&", '&' :: _ | "|", '|' :: _ => true
        | "<=", _ | ">=", _ | "==", _ | "!=", _ | "&&", _ | "||", _ => false
        | _, '=' :: _ => true
        | _, _ => false
      !longer

/-- The assignments that combine an operator with the old value. -/
def updates : List String := ["*=", "/=", "%=", "+=", "-=", "<<=", ">>=", "&=", "^=", "|="]

/-! ## Evaluation -/

mutual

/-- The value of an expression. -/
def expression : Nat → Evaluating Int
  | 0 => malformed
  | fuel + 1 => do
    let n ← binary fuel levels.reverse
    if ← takes "?" then
      let yes ← expression fuel
      if !(← takes ":") then malformed
      let no ← expression fuel
      pure (if n ≠ 0 then yes else no)
    else pure n

/-- The value of operators of some levels, the loosest first. -/
def binary : Nat → List (List String) → Evaluating Int
  | 0, _ => malformed
  | fuel + 1, [] => unary fuel
  | fuel + 1, ops :: tighter => do
    let n ← binary fuel tighter
    binaryRest fuel ops tighter n

/-- Goes on behind the first operand of a level. -/
def binaryRest : Nat → List String → List (List String) → Int → Evaluating Int
  | 0, _, _, n => pure n
  | fuel + 1, ops, tighter, n => do
    skip
    match operatorOf ops (← get).rest with
    | none => pure n
    | some op =>
      let _ ← takes op
      let m ← binary fuel tighter
      binaryRest fuel ops tighter (← (apply op n m : Except Fault Int))

/-- The value of an operand with its signs. -/
def unary : Nat → Evaluating Int
  | 0 => malformed
  | fuel + 1 => do
    if ← takes "-" then return wrap (-(← unary fuel))
    else if ← takes "+" then unary fuel
    else if ← takes "!" then return truth ((← unary fuel) = 0)
    else if ← takes "~" then return wrap (-(← unary fuel) - 1)
    else if ← takes "(" then
      let n ← expression fuel
      if ← takes ")" then pure n else malformed
    else operand fuel

/-- The value of a number or a variable. -/
def operand : Nat → Evaluating Int
  | 0 => malformed
  | fuel + 1 => do
    skip
    let w ← get
    let word := w.rest.takeWhile fun c => c.isAlphanum || c == '_'
    let name := String.ofList word
    modify ({ · with rest := w.rest.drop word.length })
    match word with
    | [] => malformed
    | c :: _ =>
      if c.isDigit then
        match Printing.readNumber word with
        | (n, true) => pure (wrap n)
        | (_, false) => malformed
      else
        skip
        let rest := (← get).rest
        match updates.find? fun op => op.toList.isPrefixOf rest with
        | some op =>
          let _ ← takes op
          let n ← expression fuel
          let value ← (apply (String.ofList (op.toList.dropLast)) (← valueOf name) n :
            Except Fault Int)
          assign name value
        | none =>
          match (← get).rest with
          | '=' :: '=' :: _ => valueOf name
          | '=' :: rest =>
            modify ({ · with rest })
            assign name (← expression fuel)
          | _ => valueOf name

end

/-- How many steps of the evaluation one character may need. -/
def stepsPerCharacter : Nat := 16

/-- The value of an expression, and the variables that it assigns, the earliest first. An empty
expression is zero. -/
def evaluate (lookup : String → String) (s : String) :
    Except Fault (Int × List (String × Int)) :=
  let whole : Evaluating Int := do
    skip
    if (← get).rest = [] then pure 0
    else
      let n ← expression ((s.length + 1) * stepsPerCharacter)
      skip
      if (← get).rest = [] then pure n else malformed
  match whole.run { rest := s.toList, lookup } with
  | .error e => .error e
  | .ok (n, w) => .ok (n, w.assigned.reverse)

end Toolchain.Shell.Arithmetic
