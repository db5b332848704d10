import Toolchain.Dict
import Toolchain.Flag.Category

/-!
# Flag values and atoms

A record gives the flags of a category as one text or as a list. Text is grouped into
*atoms*: an atom begins at each word that starts with `-` and takes the words after it that
do not, so `-O0 -foo-flag foo-val` is the two atoms `-O0` and `-foo-flag foo-val`. A list is
taken as it is.

  * `group` — words to groups of words; `Atom` texts are groups joined by single spaces.
  * `arguments` — atoms back to command-line words.
  * `FlagSet` — the atoms of each category, in category order.

## The flag set

A `FlagSet` stores the categories that have atoms, each once, in category order.
`FlagSet.set` keeps that form (`FlagSet.Normal`): an empty list takes the category away.
-/

namespace Toolchain

/-- The flags of one category as a record gives them. -/
inductive FlagValue
  | text (s : String)
  | list (atoms : List String)
  deriving DecidableEq, Repr

/-! ## Grouping words -/

namespace Text

/-- Whether a word begins an atom of its own. -/
def isFlagWord (w : List Char) : Bool := w.head? == some '-'

/-- Groups words, given that a group is open: what is returned first are the words that
belong to it. -/
def groupRest : List (List Char) → List (List Char) × List (List (List Char))
  | [] => ([], [])
  | w :: ws =>
    let (mine, others) := groupRest ws
    if isFlagWord w then ([], (w :: mine) :: others) else (w :: mine, others)

/-- Groups words: the first word and each word that starts with `-` begin a group. -/
def groupWords : List (List Char) → List (List (List Char))
  | [] => []
  | w :: ws =>
    let (mine, others) := groupRest ws
    (w :: mine) :: others

/-- The words of a text as atoms. -/
def atomsOf (s : List Char) : List (List Char) := (groupWords (words s)).map (joinWith [' '])

/-- Nothing is lost: the words that belong to the open group, then the groups. -/
theorem groupRest_flatten (ws : List (List Char)) :
    (groupRest ws).1 ++ (groupRest ws).2.flatten = ws := by
  induction ws with
  | nil => rfl
  | cons w ws ih =>
    simp only [groupRest]
    split <;> simp [ih]

theorem groupWords_flatten (ws : List (List Char)) : (groupWords ws).flatten = ws := by
  cases ws with
  | nil => rfl
  | cons w ws => simp [groupWords, groupRest_flatten]

end Text

/-- Splits a text of flags into atoms. -/
def tokenizeFlags (s : String) : List String := (Text.atomsOf s.toList).map String.ofList

/-- The atoms of a value: none where there is no value. -/
def FlagValue.atoms : Option FlagValue → List String
  | none => []
  | some (.text s) => tokenizeFlags s
  | some (.list atoms) => atoms

/-- The command-line words of atoms, in order: an atom of several words becomes several
arguments. -/
def arguments (atoms : List String) : List String := atoms.flatMap wordsOf

example : tokenizeFlags "x -I /opt  -O2 a b" = ["x", "-I /opt", "-O2 a b"] := by decide
example : arguments ["-foo-flag foo-val", " ", "-g"] = ["-foo-flag", "foo-val", "-g"] := by decide

/-! ## Flag sets -/

/-- The atoms of the categories that have any. -/
structure FlagSet where
  entries : List (Category × List String) := []
  deriving DecidableEq, Repr, Inhabited

namespace FlagSet

/-- No flags at all. -/
def empty : FlagSet := {}

/-- Puts the atoms of a category at their place, over those that it had. -/
def putAtoms (c : Category) (atoms : List String) :
    List (Category × List String) → List (Category × List String)
  | [] => [(c, atoms)]
  | e :: rest =>
    if c.rank < e.1.rank then (c, atoms) :: e :: rest
    else if c = e.1 then (c, atoms) :: rest
    else e :: putAtoms c atoms rest

/-- The atoms of a category; none if it has no entry. -/
def get (fs : FlagSet) (c : Category) : List String :=
  match fs.entries.find? (·.1 == c) with
  | some e => e.2
  | none => []

/-- Replaces the atoms of a category. Without atoms the category has no entry. -/
def set (fs : FlagSet) (c : Category) (atoms : List String) : FlagSet :=
  if atoms = [] then ⟨fs.entries.filter (·.1 ≠ c)⟩ else ⟨putAtoms c atoms fs.entries⟩

/-- Takes all flags away. -/
def clear (_ : FlagSet) : FlagSet := empty

/-- Whether no category has an entry. -/
def isEmpty (fs : FlagSet) : Bool := fs.entries.isEmpty

/-- The categories that have an entry, with their atoms, in order. -/
def toList (fs : FlagSet) : List (Category × List String) := fs.entries

/-- The stored form that every operation keeps: categories in increasing order, none without
atoms. -/
def Normal (fs : FlagSet) : Prop :=
  fs.entries.Pairwise (fun a b => a.1.rank < b.1.rank) ∧ ∀ e ∈ fs.entries, e.2 ≠ []

theorem normal_empty : empty.Normal := ⟨List.Pairwise.nil, by simp [empty]⟩

/-- Sets the categories of a record one after the other, in name order. The first unknown
name is an error, whatever its value. -/
def setAll (fs : FlagSet) : List (String × Option FlagValue) → Except CompilerError FlagSet
  | [] => .ok fs
  | (name, value) :: rest =>
    match Category.parse name with
    | .error e => .error e
    | .ok c => (fs.set c (FlagValue.atoms value)).setAll rest

/-- The flag set of a record. -/
def ofConfig (raw : Dict (Option FlagValue)) : Except CompilerError FlagSet :=
  empty.setAll raw.toList

/-- The record of a flag set: each category as a list. -/
def toConfig (fs : FlagSet) : Dict (Option FlagValue) :=
  Dict.ofList (fs.entries.map fun e => (e.1.name, some (.list e.2)))

/-- The atoms that invocations of a role receive, in category order. -/
def forRole (fs : FlagSet) (r : Role) : List String :=
  (fs.entries.filter fun e => e.1.appliesTo r).flatMap (·.2)

end FlagSet

end Toolchain
