import Toolchain.Capability
import Toolchain.Environment.Activation
import Toolchain.Record
import Toolchain.Spec

/-!
# Compilers

A compiler is a toolchain that can be asked for flags and run: its identity, the executables
by role, the user's flags, and the environment that it needs.

  * `Compiler.ofRecord` — from a record, in which the spec, the operating system, the flag
    categories and the environment are checked in this order.
  * `Compiler.record` — back to a record. The spec is written in its canonical form.
  * `Compiler.flag`, `stdcxxLibs`, `invocationFlags` — what to put on a command line.
-/

namespace Toolchain

/-- A configured toolchain. -/
structure Compiler where
  spec : Spec
  family : Family
  operatingSystem : String
  target : Option String := none
  paths : RolePaths := {}
  flags : FlagSet := .empty
  environment : Mutation := {}
  modules : List String := []
  /-- Directories that are used whatever is discovered. -/
  extraRpaths : List Path := []
  /-- `some false` turns discovery off. -/
  implicitRpaths : Option Bool := none
  /-- The flag that makes the driver show its link line. -/
  verboseFlag : Option String
  deriving DecidableEq

namespace Compiler

/-- A compiler without executables, flags and environment. -/
def new (spec : Spec) (operatingSystem : String) : Compiler :=
  { spec, operatingSystem, family := .ofName spec.name
    verboseFlag := (Family.ofName spec.name).verboseFlag? }

/-- The name by which messages call a compiler. -/
def label (c : Compiler) : String := c.spec.text

instance : ToString Compiler := ⟨label⟩

/-! ## Records -/

/-- What a record lacks, after the spec of its compiler. -/
def invalid {α : Type} (spec : Spec) (message : String) : Except CompilerError α :=
  .error (.invalidConfig (spec.text ++ ": " ++ message))

/-- The flags of a record; an unknown category is blamed on the compiler. -/
def flagsOf (spec : Spec) (raw : Dict (Option FlagValue)) : Except CompilerError FlagSet :=
  match FlagSet.ofConfig raw with
  | .error (.invalidConfig message) => invalid spec message
  | answer => answer

/-- Builds a compiler from a record. -/
def ofRecord (r : Record) : Except CompilerError Compiler :=
  match Spec.parse r.spec with
  | .error e => .error e
  | .ok spec =>
    let operatingSystem := trimmed r.operatingSystem
    if operatingSystem = "" then invalid spec "`operating_system` must not be empty"
    else
      match flagsOf spec r.flags with
      | .error e => .error e
      | .ok flags =>
        let environment := r.environment.getD {}
        match environment.fault? with
        | some fault => invalid spec ("environment: " ++ fault.message)
        | none =>
          .ok { new spec operatingSystem with
            target := r.target
            paths := r.paths
            flags, environment
            modules := r.modules.getD []
            extraRpaths := r.extraRpaths
            implicitRpaths := r.implicitRpaths }

/-- A table whose only entry has this key is replaced by what is under the key. -/
def unwrap (key : String) (d : Data) : Data :=
  match d with
  | .table [(k, inner)] => if k = key then inner else d
  | d => d

/-- Builds a compiler from JSON data, which may be wrapped once under `compiler`. -/
def ofData (d : Data) : Except CompilerError Compiler :=
  match Record.decode .json (unwrap "compiler" d) with
  | .error fault => .error (.invalidConfig (fault.message .json))
  | .ok record => ofRecord record

/-- The record of a compiler. -/
def record (c : Compiler) : Record :=
  { spec := c.spec.text
    operatingSystem := c.operatingSystem
    target := c.target
    paths := c.paths
    flags := c.flags.toConfig
    modules := if c.modules = [] then none else some c.modules
    environment := if c.environment.isEmpty then none else some c.environment
    extraRpaths := c.extraRpaths
    implicitRpaths := c.implicitRpaths }

/-! ## Changes -/

/-- Replaces the executable of a role. -/
def setPath (c : Compiler) (r : Role) (p : Option Path) : Compiler :=
  { c with paths := c.paths.set r p }

/-- Replaces the flags of a category. -/
def setFlags (c : Compiler) (category : Category) (atoms : List String) : Compiler :=
  { c with flags := c.flags.set category atoms }

/-- Takes all flags away. -/
def clearFlags (c : Compiler) : Compiler := { c with flags := c.flags.clear }

/-! ## Questions -/

/-- The flag for a property, whatever flags the user has set. -/
def flag (c : Compiler) (p : Property) : Except CompilerError String :=
  match c.family.flag p c.spec.version with
  | .supported flag => .ok flag
  | .unsupported why => .error (.unsupportedFlag c.label p.name why.reason)

/-- The flags that link the C++ standard library. -/
def stdcxxLibs (c : Compiler) : Except CompilerError (List String) :=
  match c.family.stdcxxLibs? with
  | some libs => .ok libs
  | none => .error (.unsupportedFlag c.label "stdcxx_libs" (Shortfall.absent c.family).reason)

/-- The words that every invocation of a role receives. -/
def invocationFlags (c : Compiler) (r : Role) : List String := arguments (c.flags.forRole r)

/-- Whether directories are to be discovered. -/
def discovers (c : Compiler) : Bool := c.implicitRpaths.getD true

/-- The scope of the environment that a compiler needs. -/
def activation (c : Compiler) : Activation := ⟨c.label, c.environment, c.modules⟩

end Compiler

end Toolchain
