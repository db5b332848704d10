import Toolchain.Environment.Mutation
import Toolchain.Flag.Atoms

/-!
# Compiler records

A record is how a compiler is written down, in a compilers file or as JSON. Only the spec
and the operating system have to be there.

  * `Record.decode` — from a data tree, in the two ways a record can be written.
  * `Record.data` — back to a tree. What is absent or empty is left out, except the paths.
-/

namespace Toolchain

/-! ## Paths by role -/

/-- The executables of a compiler. -/
structure RolePaths where
  cc : Option Path := none
  cxx : Option Path := none
  f77 : Option Path := none
  fc : Option Path := none
  deriving DecidableEq, Repr, Inhabited

namespace RolePaths

/-- The executable of a role. -/
def get (ps : RolePaths) : Role → Option Path
  | .cc => ps.cc
  | .cxx => ps.cxx
  | .f77 => ps.f77
  | .fc => ps.fc

/-- Replaces the executable of a role. -/
def set (ps : RolePaths) (r : Role) (p : Option Path) : RolePaths :=
  match r with
  | .cc => { ps with cc := p }
  | .cxx => { ps with cxx := p }
  | .f77 => { ps with f77 := p }
  | .fc => { ps with fc := p }

/-- The roles that have an executable, in order. -/
def configured (ps : RolePaths) : List (Role × Path) :=
  Role.all.filterMap fun r => (ps.get r).map (r, ·)

/-- How the paths are decoded: a field for each role, none of which has to be given. -/
def shape : Decoder.Shape RolePaths where
  name := "RolePaths"
  fields := Role.all.map Role.key
  required := 0
  start := {}
  take _ ps key d :=
    match Role.ofKey? key with
    | none => .ok ps
    | some r => (Decoder.optional Decoder.path d).map (ps.set r)

/-- An optional path as data. -/
def pathData : Option Path → Data
  | some p => .text p.text
  | none => .null

/-- The paths as a table with all four roles. -/
def data (ps : RolePaths) : Data := .table (Role.all.map fun r => (r.key, pathData (ps.get r)))

end RolePaths

/-! ## Flag values -/

namespace FlagValue

/-- Decodes a value: a text or a list of texts. -/
def decode : Decoder FlagValue
  | .text s => .ok (.text s)
  | .list items =>
    match Decoder.each Decoder.text items with
    | .ok atoms => .ok (.list atoms)
    | .error _ => .error (.noAlternative "FlagValue")
  | _ => .error (.noAlternative "FlagValue")

/-- A value as data. -/
def data : Option FlagValue → Data
  | none => .null
  | some (.text s) => .text s
  | some (.list atoms) => .texts atoms

/-- Values by name, each of which may be null. -/
def decodeAll : Decoder (Dict (Option FlagValue)) := Decoder.mapping (Decoder.optional decode)

end FlagValue

/-! ## Records -/

/-- A compiler as it is written down. -/
structure Record where
  spec : String
  operatingSystem : String
  target : Option String := none
  paths : RolePaths := {}
  flags : Dict (Option FlagValue) := ∅
  modules : Option (List String) := none
  environment : Option Mutation := none
  extraRpaths : List Path := []
  implicitRpaths : Option Bool := none
  deriving DecidableEq, Inhabited

namespace Record

/-- A record while its fields are read: the two that have to be there may still be missing. -/
structure Draft where
  spec : Option String := none
  operatingSystem : Option String := none
  rest : Record := { spec := "", operatingSystem := "" }
  deriving Inhabited

/-- Takes a field that has a default. -/
def takeOptional (dialect : Dialect) (r : Record) (key : String) (d : Data) :
    Except DecodeFault Record :=
  match key with
  | "target" => (Decoder.optional Decoder.text d).map fun target => { r with target }
  | "paths" => (RolePaths.shape.decode dialect d).map fun paths => { r with paths }
  | "flags" => (FlagValue.decodeAll d).map fun flags => { r with flags }
  | "modules" =>
    (Decoder.optional (Decoder.sequence Decoder.text) d).map fun modules => { r with modules }
  | "environment" =>
    (Decoder.optional (Mutation.decode dialect) d).map fun environment => { r with environment }
  | "extra_rpaths" =>
    (Decoder.sequence Decoder.path d).map fun extraRpaths => { r with extraRpaths }
  | "implicit_rpaths" =>
    (Decoder.optional Decoder.boolean d).map fun implicitRpaths => { r with implicitRpaths }
  | _ => .ok r

/-- How a record is decoded. -/
def shape : Decoder.Shape Draft where
  name := "CompilerEntry"
  fields := ["spec", "operating_system", "target", "paths", "flags", "modules", "environment",
    "extra_rpaths", "implicit_rpaths"]
  required := 2
  start := {}
  take dialect draft key d :=
    match key with
    | "spec" => (Decoder.text d).map fun s => { draft with spec := some s }
    | "operating_system" =>
      (Decoder.text d).map fun s => { draft with operatingSystem := some s }
    | key => (takeOptional dialect draft.rest key d).map fun rest => { draft with rest }

/-- The record of a draft, if nothing is missing. -/
def Draft.complete (draft : Draft) : Except DecodeFault Record :=
  match draft.spec, draft.operatingSystem with
  | none, _ => .error (.missingField "spec")
  | _, none => .error (.missingField "operating_system")
  | some spec, some operatingSystem => .ok { draft.rest with spec, operatingSystem }

/-- Decodes a record. -/
def decode (dialect : Dialect) (d : Data) : Except DecodeFault Record :=
  match shape.decode dialect d with
  | .error e => .error e
  | .ok draft => draft.complete

/-- A field that is written only if there is something to write. -/
def field (key : String) (present : Bool) (d : Data) : List (String × Data) :=
  if present then [(key, d)] else []

/-- The entries of a record, in the order of its fields. -/
def entries (r : Record) : List (String × Data) :=
  [("spec", .text r.spec), ("operating_system", .text r.operatingSystem)]
    ++ field "target" r.target.isSome (.text (r.target.getD ""))
    ++ [("paths", r.paths.data)]
    ++ field "flags" (!r.flags.isEmpty)
      (.table (r.flags.toList.map fun e => (e.1, FlagValue.data e.2)))
    ++ field "modules" r.modules.isSome (.texts (r.modules.getD []))
    ++ field "environment" r.environment.isSome (r.environment.getD {}).data
    ++ field "extra_rpaths" (!r.extraRpaths.isEmpty) (.texts (r.extraRpaths.map Path.text))
    ++ field "implicit_rpaths" r.implicitRpaths.isSome (.boolean (r.implicitRpaths.getD false))

/-- A record as a table. -/
def data (r : Record) : Data := .table r.entries

end Record

end Toolchain
