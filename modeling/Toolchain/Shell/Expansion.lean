import Toolchain.Shell.Arithmetic
import Toolchain.Shell.Pattern
import Toolchain.Shell.Reader
import Toolchain.Shell.State

/-!
# Expanding words

A word is expanded part by part into glyphs: characters that remember whether they were
quoted, written plainly, or came out of a substitution. Glyphs are then split into fields at
the separators that came out of substitutions, and a field with plain wildcards becomes the
names of the files that it describes, if there are any.

  * `expandPart` — the glyphs of a part.
  * `splitGlyphs` — the fields.
  * `expandFields` — the fields of words; `expandText` — one text, without splitting.

Command substitutions are run by a `Capture`, which answers what a script prints.
-/

namespace Toolchain.Shell

/-! ## Glyphs -/

/-- Where a character of an expanded word comes from. -/
inductive Origin
  | plain
  | quoted
  | substituted
  deriving DecidableEq, Repr

/-- A piece of an expanded word. -/
inductive Glyph
  | char (c : Char) (origin : Origin)
  /-- Quoted, and empty: it makes a field all the same. -/
  | void
  /-- The end of a field. -/
  | gap
  deriving DecidableEq, Repr

/-- The glyphs of a text. -/
def glyphsOf (origin : Origin) (s : String) : List Glyph := s.toList.map (.char · origin)

/-- The glyphs of a value. -/
def valueGlyphs (quoted : Bool) (s : String) : List Glyph :=
  if !quoted then glyphsOf .substituted s
  else if s = "" then [.void]
  else glyphsOf .quoted s

/-- The glyphs of several values, each a field of its own. -/
def severalGlyphs (quoted : Bool) (values : List String) : List Glyph :=
  ((values.map (valueGlyphs quoted)).intersperse [.gap]).flatten

/-- The characters of glyphs as one text. -/
def plainText (gs : List Glyph) : String :=
  String.ofList (gs.filterMap fun
    | .char c _ => some c
    | .gap => some ' '
    | .void => none)

/-- Glyphs as a pattern: only what is not quoted has a meaning. -/
def patternOf (gs : List Glyph) : Pattern :=
  Pattern.ofMarked (gs.filterMap fun
    | .char c origin => some (c, origin == .quoted)
    | _ => none)

/-! ## Fields -/

/-- Fields that are being split: those that are done, the last one first, the one that has
begun, the last character first, and whether a separator may still be absorbed. -/
structure Splitting where
  done : List (List Marked) := []
  current : Option (List Marked) := none
  absorbs : Bool := false

namespace Splitting

/-- Ends the field that has begun, if there is one. -/
def close (s : Splitting) : Splitting :=
  match s.current with
  | some field => { s with done := field.reverse :: s.done, current := none }
  | none => s

/-- Adds a character to the field. -/
def push (s : Splitting) (c : Marked) : Splitting :=
  { s with current := some (c :: s.current.getD []), absorbs := false }

/-- Meets a separator. Blank ones only end a field; each other one ends a field, which is
empty if none has begun. -/
def separate (s : Splitting) (blank : Bool) : Splitting :=
  if blank then { s.close with absorbs := s.absorbs || s.current.isSome }
  else if s.current.isSome then { s.close with absorbs := false }
  else if s.absorbs then { s with absorbs := false }
  else { s with done := [] :: s.done }

/-- Takes the next glyph. -/
def step (separators : List Char) (s : Splitting) : Glyph → Splitting
  | .void => { s with current := some (s.current.getD []), absorbs := false }
  | .gap => { s.close with absorbs := false }
  | .char c origin =>
    if origin = .substituted ∧ c ∈ separators then
      s.separate (c = ' ' ∨ c = '\t' ∨ c = '\n')
    else s.push (c, origin == .quoted)

end Splitting

/-- The fields of glyphs. -/
def splitGlyphs (separators : List Char) (gs : List Glyph) : List (List Marked) :=
  ((gs.foldl (Splitting.step separators) {}).close).done.reverse

/-! ## File names -/

/-- The pieces of a field between separators of a path. -/
def pathPieces : List Marked → List (List Marked)
  | [] => [[]]
  | (c, quoted) :: rest =>
    match pathPieces rest with
    | [] => [[(c, quoted)]]
    | piece :: pieces =>
      if c = '/' then [] :: piece :: pieces else ((c, quoted) :: piece) :: pieces

/-- The text of marked characters. -/
def markedText (s : List Marked) : String := String.ofList (s.map Prod.fst)

/-- The names in a directory that a piece describes. A name that begins with a dot has to be
asked for by one. -/
def namesIn (t : FileTree) (cwd : Place) (dir : String) (piece : List Marked) : List String :=
  let p := Pattern.ofMarked piece
  (t.list cwd ⟨if dir = "" then "." else dir⟩).filter fun name =>
    p.accepts name.toList
      && (name.toList.head? ≠ some '.' || (piece.head?.map Prod.fst) == some '.')

/-- The paths that the pieces of a field describe below a beginning. -/
def matchingPaths (t : FileTree) (cwd : Place) (front : String) :
    List (List Marked) → List String
  | [] => [front]
  | [piece] =>
    if (Pattern.ofMarked piece).isOpen then (namesIn t cwd front piece).map (front ++ ·)
    else
      let path := front ++ markedText piece
      if (t.status cwd ⟨path⟩).toOption.isSome then [path] else []
  | piece :: rest =>
    if (Pattern.ofMarked piece).isOpen then
      (namesIn t cwd front piece).flatMap fun name =>
        matchingPaths t cwd (front ++ name ++ "/") rest
    else matchingPaths t cwd (front ++ markedText piece ++ "/") rest

/-- A field as texts: the files that it describes, or itself if there are none. -/
def globbed (t : FileTree) (cwd : Place) (field : List Marked) : List String :=
  if (Pattern.ofMarked field).isOpen then
    match matchingPaths t cwd "" (pathPieces field) with
    | [] => [markedText field]
    | paths => paths
  else [markedText field]

/-! ## Parameters -/

/-- Runs a script and answers what it prints, without the line ends at its end. -/
abbrev Capture := String → State → String × State

/-- Why a word cannot be expanded, which ends the shell with a status. -/
structure ExpansionFault where
  message : String
  status : Nat
  deriving DecidableEq, Repr

/-- A step of an expansion. -/
abbrev Expanding := ExceptT ExpansionFault (StateM State)

/-- Fails with a message; the shells have different statuses for it. -/
def refuse {α : Type} (status : Nat) (message : String) : Expanding α := do
  let s ← get
  throw ⟨message, s.wording 2 status⟩

/-- The value of a parameter that has one. -/
def parameterValue (s : State) (name : String) : Option String :=
  match name with
  | "#" => some (toString s.args.length)
  | "?" => some (toString s.status)
  | "$" => some (toString Process.number)
  | "-" => some (if s.exitOnError then "e" else "")
  | "!" => none
  | "0" => some s.name
  | name =>
    match name.toNat? with
    | some n => s.args[n - 1]?
    | none => s.get? name

/-- The separators of fields. -/
def separatorsOf (s : State) : List Char := ((s.get? "IFS").getD " \t\n").toList

/-- The glyphs of all arguments. -/
def argumentGlyphs (s : State) (quoted : Bool) (name : String) : List Glyph :=
  if name = "*" ∧ quoted then
    valueGlyphs true (joined (String.ofList ((separatorsOf s).take 1)) s.args)
  else severalGlyphs quoted s.args

/-- Whether a parameter stands for all arguments. -/
def isAllArguments (name : String) : Bool := name == "@" || name == "*"

/-- What is said about an arithmetic expression that has no value. -/
def arithmeticMessage (s : State) (expression : String) (e : Arithmetic.Fault) : String :=
  match e with
  | .divisionByZero =>
    s.wording ("arithmetic expression: division by zero: \"" ++ expression ++ "\"")
      (expression ++ ": division by 0 (error token is \"0\")")
  | .malformed rest =>
    s.wording ("arithmetic expression: expecting primary: \"" ++ expression ++ "\"")
      (expression ++ ": syntax error: operand expected (error token is \"" ++ rest ++ "\")")

/-! ## Parts -/

/-- The directory that a tilde stands for. Without a variable that says so, only one dialect
asks the system. -/
def homeDirectory (s : State) : Option String :=
  (s.get? "HOME").orElse fun _ => s.wording none (some "/root")

/-- The glyphs of a text with a tilde in front that stands for the home directory. -/
def tildeGlyphs (s : State) (text : String) : List Glyph :=
  match text.toList, homeDirectory s with
  | ['~'], some home => glyphsOf .quoted home
  | '~' :: '/' :: rest, some home => glyphsOf .quoted home ++ glyphsOf .plain (String.ofList ('/' :: rest))
  | _, _ => glyphsOf .plain text

/-- The glyphs of a part; the fuel bounds how deep words stand inside substitutions. -/
def expandPart (capture : Capture) : Nat → Part → Expanding (List Glyph)
  | 0, _ => pure []
  | fuel + 1, part => do
    let inner (quoted : Bool) (word : String) : Expanding (List Glyph) := do
      return (← (partsOf quoted word.toList).mapM (expandPart capture fuel)).flatten
    match part with
    | .text quoted text =>
      pure (if !quoted then glyphsOf .plain text
        else if text = "" then [.void]
        else glyphsOf .quoted text)
    | .unreadable => refuse 1 "Bad substitution"
    | .output quoted script =>
      let (text, s) := capture script (← get)
      set s
      pure (valueGlyphs quoted text)
    | .arithmetic quoted text =>
      let expression := plainText (← inner true text)
      let s ← get
      match Arithmetic.evaluate (fun name => (s.get? name).getD "") expression with
      | .error e => refuse 1 (arithmeticMessage s expression e)
      | .ok (n, assigned) =>
        set (assigned.foldl (fun s e => s.set e.1 (toString e.2)) s)
        pure (valueGlyphs quoted (toString n))
    | .parameter quoted name modifier =>
      let s ← get
      let all := isAllArguments name
      let value := if all then (if s.args = [] then none else some (joined " " s.args))
        else parameterValue s name
      let shown : List Glyph :=
        if all then argumentGlyphs s quoted name else valueGlyphs quoted (value.getD "")
      let missing (alsoEmpty : Bool) : Bool :=
        match value with
        | none => true
        | some v => alsoEmpty && v = ""
      match modifier with
      | .plain =>
        if s.strict ∧ value = none ∧ !all then
          refuse 127 (name ++ s.wording ": parameter not set" ": unbound variable")
        else pure shown
      | .length =>
        let n := if all then s.args.length else (value.getD "").length
        pure (valueGlyphs quoted (toString n))
      | .default alsoEmpty word => if missing alsoEmpty then inner quoted word else pure shown
      | .replace alsoEmpty word =>
        if missing alsoEmpty then pure (if quoted then [.void] else []) else inner quoted word
      | .assign alsoEmpty word =>
        if missing alsoEmpty then
          let text := plainText (← inner quoted word)
          modify (·.set name text)
          pure (valueGlyphs quoted text)
        else pure shown
      | .demand alsoEmpty message =>
        if missing alsoEmpty then
          let text := plainText (← inner quoted message)
          let usual := if alsoEmpty then
              s.wording "parameter not set or null" "parameter null or not set"
            else "parameter not set"
          refuse 127 (name ++ ": " ++ if text = "" then usual else text)
        else pure shown
      | .cutFront longest pattern =>
        let p := patternOf (← inner false pattern)
        pure (valueGlyphs quoted (String.ofList (p.cutFront longest (value.getD "").toList)))
      | .cutBack longest pattern =>
        let p := patternOf (← inner false pattern)
        pure (valueGlyphs quoted (String.ofList (p.cutBack longest (value.getD "").toList)))

/-- How deep words may stand inside substitutions. -/
def substitutionDepth : Nat := 64

/-! ## Words -/

/-- The glyphs of a word. -/
def expandWord (capture : Capture) (word : Word) : Expanding (List Glyph) := do
  match word with
  | .text false text :: rest =>
    let front := tildeGlyphs (← get) text
    return front ++ (← rest.mapM (expandPart capture substitutionDepth)).flatten
  | word => return (← word.mapM (expandPart capture substitutionDepth)).flatten

/-- The texts of the fields of words. -/
def expandFields (capture : Capture) (words : List Word) : Expanding (List String) := do
  let fields ← words.mapM fun word => do
    let gs ← expandWord capture word
    let s ← get
    return (splitGlyphs (separatorsOf s) gs).flatMap
      (globbed s.process.machine.files s.process.cwd)
  return fields.flatten

/-- A word as one text. -/
def expandText (capture : Capture) (word : Word) : Expanding String := do
  return plainText (← expandWord capture word)

/-- A word as a pattern. -/
def expandPattern (capture : Capture) (word : Word) : Expanding Pattern := do
  return patternOf (← expandWord capture word)

example : splitGlyphs [' ', ':'] (glyphsOf .substituted "a : b::c ") =
    [[('a', false)], [('b', false)], [], [('c', false)]] := by decide

end Toolchain.Shell
