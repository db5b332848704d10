import Toolchain.Data.Decimal
import Toolchain.Dict
import Toolchain.Path
import Toolchain.Text.Escape

/-!
# Data trees and how they are decoded

Records are written in JSON or TOML. Both are read into one tree, `Data`, and records are
decoded from the tree; what differs between the two formats after reading is a `Dialect`.

  * A **record** is decoded from a table, entry by entry in the order of the table, or from
    a list of its fields. The first entry that does not fit is the fault; a field that is
    missing is noticed at the end.
  * A **fault** (`DecodeFault`) says what was found and what was expected; `message` words it.
-/

namespace Toolchain

/-- A value of a data format. The entries of a table are in the order in which the format
visits them. -/
inductive Data
  | null
  | boolean (b : Bool)
  | integer (n : Int)
  | fraction (x : Fraction)
  | text (s : String)
  | list (items : List Data)
  | table (entries : List (String × Data))
  deriving Repr, Inhabited

namespace Data

/-- The value of a key, if this is a table that has it. -/
def get? (d : Data) (key : String) : Option Data :=
  match d with
  | table entries => findEntry key entries
  | _ => none

/-- A list of texts. -/
def texts (ss : List String) : Data := list (ss.map text)

/-- A table of texts, in key order. -/
def textTable (d : Dict String) : Data := table (d.toList.map fun e => (e.1, text e.2))

end Data

/-! ## Faults -/

/-- What was found where something else was expected. -/
inductive Found
  | null
  | boolean (b : Bool)
  | integer (n : Int)
  | fraction (x : Fraction)
  | text (s : String)
  | list
  | table
  deriving DecidableEq, Repr

/-- What a value is, as far as a message says it. -/
def Data.found : Data → Found
  | null => .null
  | boolean b => .boolean b
  | integer n => .integer n
  | fraction x => .fraction x
  | text s => .text s
  | list _ => .list
  | table _ => .table

/-- Why a value does not fit a type. -/
inductive DecodeFault
  | wrongKind (found : Found) (expected : String)
  | missingField (name : String)
  | tooFewFields (given : Nat) (record : String) (fields : Nat)
  | tooManyFields (given : Nat)
  | noAlternative (type : String)
  deriving DecidableEq, Repr

/-- What a format decides beyond the tree. -/
structure Dialect where
  /-- How a fraction is quoted. -/
  numerals : Numerals
  /-- Whether a record that is written as a list may hold no more than its fields. -/
  closedLists : Bool
  deriving DecidableEq, Repr

/-- JSON quotes fractions with exponents and closes lists. -/
def Dialect.json : Dialect := ⟨Numerals.scientific, true⟩

/-- TOML quotes fractions positionally and leaves lists open. -/
def Dialect.toml : Dialect := ⟨Numerals.positional, false⟩

/-- What was found, in words. -/
def Found.describe (dialect : Dialect) : Found → String
  | null => "null"
  | boolean b => "boolean `" ++ (if b then "true" else "false") ++ "`"
  | integer n => "integer `" ++ toString n ++ "`"
  | fraction x => "floating point `" ++ dialect.numerals.write x ++ "`"
  | text s => "string " ++ shownText s
  | list => "sequence"
  | table => "map"

/-- A fault in words. -/
def DecodeFault.message (dialect : Dialect) : DecodeFault → String
  | wrongKind found expected =>
    "invalid type: " ++ found.describe dialect ++ ", expected " ++ expected
  | missingField name => "missing field `" ++ name ++ "`"
  | tooFewFields given record fields =>
    "invalid length " ++ toString given ++ ", expected struct " ++ record ++ " with "
      ++ toString fields ++ (if fields = 1 then " element" else " elements")
  | tooManyFields given =>
    "invalid length " ++ toString given ++ ", expected fewer elements in array"
  | noAlternative type => "data did not match any variant of untagged enum " ++ type

/-! ## Decoders -/

/-- Reads a type from a tree. -/
abbrev Decoder (α : Type) := Data → Except DecodeFault α

namespace Decoder

/-- The fault of a value of a wrong kind. -/
def mismatch {α : Type} (expected : String) (d : Data) : Except DecodeFault α :=
  .error (.wrongKind d.found expected)

def text : Decoder String
  | .text s => .ok s
  | d => mismatch "a string" d

def path : Decoder Path
  | .text s => .ok ⟨s⟩
  | d => mismatch "path string" d

def boolean : Decoder Bool
  | .boolean b => .ok b
  | d => mismatch "a boolean" d

/-- Null is no value. -/
def optional {α : Type} (decode : Decoder α) : Decoder (Option α)
  | .null => .ok none
  | d => (decode d).map some

/-- Decodes values one after the other. -/
def each {α : Type} (decode : Decoder α) : List Data → Except DecodeFault (List α)
  | [] => .ok []
  | d :: rest =>
    match decode d with
    | .error e => .error e
    | .ok x => (each decode rest).map (x :: ·)

def sequence {α : Type} (decode : Decoder α) : Decoder (List α)
  | .list items => each decode items
  | d => mismatch "a sequence" d

/-- Decodes entries one after the other into a map. -/
def eachEntry {α : Type} (decode : Decoder α) (acc : Dict α) :
    List (String × Data) → Except DecodeFault (Dict α)
  | [] => .ok acc
  | (k, d) :: rest =>
    match decode d with
    | .error e => .error e
    | .ok x => eachEntry decode (acc.insert k x) rest

def mapping {α : Type} (decode : Decoder α) : Decoder (Dict α)
  | .table entries => eachEntry decode Dict.empty entries
  | d => mismatch "a map" d

/-- Takes the entries of a record one after the other. -/
def eachField {σ : Type} (take : σ → String → Data → Except DecodeFault σ) (acc : σ) :
    List (String × Data) → Except DecodeFault σ
  | [] => .ok acc
  | (k, d) :: rest =>
    match take acc k d with
    | .error e => .error e
    | .ok acc => eachField take acc rest

/-- Takes the fields of a record that is written as a list: their names in order stand for
keys. What is left over is counted by the caller. -/
def eachNamed {σ : Type} (take : σ → String → Data → Except DecodeFault σ) (acc : σ) :
    List String → List Data → Except DecodeFault σ
  | name :: names, d :: rest =>
    match take acc name d with
    | .error e => .error e
    | .ok acc => eachNamed take acc names rest
  | _, _ => .ok acc

/-- How a record is decoded: its name, its fields in order, how many of them have to be
given, what there is before the first field, and how a field is taken. A field without a
default has to be among the `required` first ones. -/
structure Shape (σ : Type) where
  name : String
  fields : List String
  required : Nat
  start : σ
  take : Dialect → σ → String → Data → Except DecodeFault σ

/-- Decodes a record from a list of its fields. Too few of the required fields are noticed
before a field that follows them, too many after all of them. -/
def Shape.ofList {σ : Type} (shape : Shape σ) (dialect : Dialect) (items : List Data) :
    Except DecodeFault σ :=
  match eachNamed (shape.take dialect) shape.start shape.fields items with
  | .error e => .error e
  | .ok acc =>
    if items.length < shape.required then
      .error (.tooFewFields items.length shape.name shape.fields.length)
    else if dialect.closedLists ∧ shape.fields.length < items.length then
      .error (.tooManyFields items.length)
    else .ok acc

/-- Decodes a record from a table or a list. -/
def Shape.decode {σ : Type} (shape : Shape σ) (dialect : Dialect) (d : Data) :
    Except DecodeFault σ :=
  match d with
  | .table entries => eachField (shape.take dialect) shape.start entries
  | .list items => shape.ofList dialect items
  | d => mismatch ("struct " ++ shape.name) d

end Decoder

/-- Puts out a value, or the fault that its field is missing. -/
def required {α : Type} (name : String) : Option α → Except DecodeFault α
  | some x => .ok x
  | none => .error (.missingField name)

end Toolchain
