import Toolchain.Text.Split

/-!
# Paths

A path is a text; what it means are its components. Repeated separators, a `.` that is not
the first component, and a separator at the end carry no meaning, so two texts can be one
path (`Path.same`). Nothing here looks at a file system.

  * `components` — the root, `.`, `..` and names, in order.
  * `compare` — lexicographic on components, so `/a/b` comes before `/a-b`.
  * `join`, `entry`, `parent?`, `fileName?` — on the text, as it was written.
  * `normalize` — resolves `.` and `..` by name.
  * `Path.collect` — a set of paths as a sorted list.

## Normalization

`normalize` keeps a stack of components. A name is pushed; `..` pops a name, is dropped on
the root and is pushed otherwise; `.` does nothing. So the stack is always the root and
names, or some `..` and names (`Normalized`).
-/

namespace Toolchain

/-! ## Components -/

/-- One step of a path. -/
inductive Component
  | root
  | current
  | parent
  | normal (name : String)
  deriving DecidableEq, Repr

namespace Component

/-- The place of a kind of component in the order. -/
def rank : Component → Nat
  | root => 0
  | current => 1
  | parent => 2
  | normal _ => 3

/-- The root first, then `.`, then `..`, then names by their text. -/
protected def compare : Component → Component → Ordering
  | normal a, normal b => Ord.compare a b
  | a, b => Ord.compare a.rank b.rank

/-- A component as it is written. -/
def text : Component → String
  | root => "/"
  | current => "."
  | parent => ".."
  | normal name => name

end Component

/-- A path as it was written. -/
structure Path where
  text : String
  deriving DecidableEq, Repr, Inhabited

namespace Path

instance : ToString Path := ⟨Path.text⟩

/-- Whether a path starts at the root. -/
def isAbsolute (p : Path) : Bool := p.text.toList.head? == some '/'

/-- What a piece between separators means where it is not the first one. -/
def innerComponent? (piece : List Char) : Option Component :=
  if piece = [] ∨ piece = ['.'] then none
  else if piece = ['.', '.'] then some .parent
  else some (.normal (String.ofList piece))

/-- The components of a text. -/
def componentsOf (s : List Char) : List Component :=
  match Text.pieces (· == '/') s with
  | [] => []
  | first :: rest =>
    let inner := rest.filterMap innerComponent?
    if s.head? = some '/' then .root :: inner
    else if first = ['.'] then .current :: inner
    else (innerComponent? first).toList ++ inner

/-- The components of a path. -/
def components (p : Path) : List Component := componentsOf p.text.toList

/-- Whether two texts are one path. -/
def same (p q : Path) : Bool := decide (p.components = q.components)

/-- Lexicographic order of component lists. -/
def compareComponents : List Component → List Component → Ordering
  | [], [] => .eq
  | [], _ :: _ => .lt
  | _ :: _, [] => .gt
  | a :: as, b :: bs => (a.compare b).then (compareComponents as bs)

/-- Paths are ordered by their components. -/
protected def compare (p q : Path) : Ordering := compareComponents p.components q.components

/-- `p` comes before `q` or is the same path. -/
protected def le (p q : Path) : Bool := Path.compare p q != .gt

/-! ## Parts of a path -/

/-- `q` seen from `p`: an absolute `q` stands for itself. -/
def join (p q : Path) : Path :=
  if q.isAbsolute then q
  else if p.text = "" then q
  else if p.text.toList.getLast? = some '/' then ⟨p.text ++ q.text⟩
  else ⟨p.text ++ "/" ++ q.text⟩

/-- An entry of a directory. -/
def entry (dir : Path) (name : String) : Path := ⟨dir.text ++ "/" ++ name⟩

/-- Drops the pieces at the end that mean nothing; the pieces come last first. -/
def dropIdle (pieces : List (List Char)) : List (List Char) :=
  pieces.dropWhile fun w => w = [] ∨ w = ['.']

/-- The same for a relative path, whose first piece means the working directory if it is `.`. -/
def dropIdleRelative : List (List Char) → List (List Char)
  | [] => []
  | [w] => if w = [] then [] else [w]
  | w :: v :: ws => if w = [] ∨ w = ['.'] then dropIdleRelative (v :: ws) else w :: v :: ws

/-- The path without its last component, as it was written; `none` at the root and for the
empty path. -/
def parent? (p : Path) : Option Path :=
  let pieces := (Text.pieces (· == '/') p.text.toList).reverse
  if p.isAbsolute then
    match dropIdle pieces.dropLast with
    | [] => none
    | _ :: rest =>
      some ⟨String.ofList ('/' :: Text.joinWith ['/'] (dropIdle rest).reverse)⟩
  else
    match dropIdleRelative pieces with
    | [] => none
    | _ :: rest => some ⟨String.ofList (Text.joinWith ['/'] (dropIdleRelative rest).reverse)⟩

/-- The last component, if it is a name. -/
def fileName? (p : Path) : Option String :=
  match p.components.getLast? with
  | some (.normal name) => some name
  | _ => none

example : (Path.mk "/usr//lib/./").parent? = some ⟨"/usr"⟩ := by decide
example : (Path.mk "./x").parent? = some ⟨"."⟩ ∧ (Path.mk "/").parent? = none := by decide
example : (Path.mk "a/./b/").fileName? = some "b" := by decide

/-! ## Normalization -/

/-- One component on the stack, which holds the last component first. -/
def pushComponent (stack : List Component) (c : Component) : List Component :=
  match c with
  | .current => stack
  | .parent =>
    match stack with
    | .normal _ :: rest => rest
    | .root :: _ => stack
    | _ => .parent :: stack
  | _ => c :: stack

/-- The components that are left after `.` and `..` are resolved. -/
def resolveComponents (cs : List Component) : List Component :=
  (cs.foldl pushComponent []).reverse

/-- Components as a text. -/
def ofComponents (cs : List Component) : Path :=
  match cs with
  | [] => ⟨"."⟩
  | .root :: rest => ⟨"/" ++ joined "/" (rest.map Component.text)⟩
  | cs => ⟨joined "/" (cs.map Component.text)⟩

/-- The path with `.` and `..` resolved by name. A separator at the end goes; `..` at the
root stays at the root; `..` at the beginning of a relative path stays. -/
def normalize (p : Path) : Path := ofComponents (resolveComponents p.components)

example : (Path.mk "/lib/../lib64/").normalize = ⟨"/lib64"⟩ := by decide
example : (Path.mk "../a/../../b").normalize = ⟨"../../b"⟩ := by decide
example : (Path.mk "/..").normalize = ⟨"/"⟩ ∧ (Path.mk "").normalize = ⟨"."⟩ := by decide

/-! ## Sets of paths -/

/-- Of neighbours that are one path, the last one stays. -/
def dropRepeats : List Path → List Path
  | [] => []
  | [p] => [p]
  | p :: q :: rest => if p.same q then dropRepeats (q :: rest) else p :: dropRepeats (q :: rest)

/-- A set of paths, in path order. Of several texts of one path the last one is kept. -/
def collect (ps : List Path) : List Path := dropRepeats (ps.mergeSort Path.le)

/-- Paths in order of first appearance, each once. -/
def unique (ps : List Path) : List Path :=
  ps.foldl (fun seen p => if seen.any (·.same p) then seen else seen ++ [p]) []

end Path

end Toolchain
