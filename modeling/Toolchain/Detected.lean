import Toolchain.Compiler
import Toolchain.Host

/-!
# Detected packages

A detection tool lists the packages that it found, with the installations of each. An
installation is a compiler if it has a C executable; its Fortran executable fills both
Fortran roles. An installation that makes no compiler is skipped with a warning and does not
affect its neighbours.
-/

namespace Toolchain

/-! ## The types -/

/-- The executables of an installation. -/
structure DetectedCompilers where
  c : Option Path := none
  cxx : Option Path := none
  fortran : Option Path := none
  deriving DecidableEq, Inhabited

/-- What is known about an installation beyond its spec. -/
structure DetectedAttributes where
  compilers : DetectedCompilers := {}
  flags : Dict (Option FlagValue) := ∅
  environment : Option Mutation := none
  extraRpaths : List Path := []
  deriving DecidableEq, Inhabited

/-- An installation. -/
structure DetectedExternal where
  spec : String
  location : Option Path := none
  modules : List String := []
  attributes : DetectedAttributes := {}
  deriving DecidableEq, Inhabited

/-- The installations of the packages, by package name. -/
abbrev DetectedPackages := Dict (List DetectedExternal)

/-! ## Decoding -/

namespace DetectedCompilers

def shape : Decoder.Shape DetectedCompilers where
  name := "DetectedCompilers"
  fields := ["c", "cxx", "fortran"]
  required := 0
  start := {}
  take _ cs key d :=
    match key with
    | "c" => (Decoder.optional Decoder.path d).map fun c => { cs with c }
    | "cxx" => (Decoder.optional Decoder.path d).map fun cxx => { cs with cxx }
    | "fortran" => (Decoder.optional Decoder.path d).map fun fortran => { cs with fortran }
    | _ => .ok cs

end DetectedCompilers

namespace DetectedAttributes

def shape : Decoder.Shape DetectedAttributes where
  name := "DetectedAttributes"
  fields := ["compilers", "flags", "environment", "extra_rpaths"]
  required := 0
  start := {}
  take dialect attrs key d :=
    match key with
    | "compilers" =>
      (DetectedCompilers.shape.decode dialect d).map fun compilers => { attrs with compilers }
    | "flags" => (FlagValue.decodeAll d).map fun flags => { attrs with flags }
    | "environment" =>
      (Decoder.optional (Mutation.decode dialect) d).map
        fun environment => { attrs with environment }
    | "extra_rpaths" =>
      (Decoder.sequence Decoder.path d).map fun extraRpaths => { attrs with extraRpaths }
    | _ => .ok attrs

end DetectedAttributes

namespace DetectedExternal

/-- How an installation is decoded; its spec may still be missing. -/
def shape : Decoder.Shape (Option String × DetectedExternal) where
  name := "DetectedExternal"
  fields := ["spec", "prefix", "modules", "extra_attributes"]
  required := 1
  start := (none, { spec := "" })
  take dialect draft key d :=
    match key with
    | "spec" => (Decoder.text d).map fun spec => (some spec, { draft.2 with spec })
    | "prefix" =>
      (Decoder.optional Decoder.path d).map fun location => (draft.1, { draft.2 with location })
    | "modules" =>
      (Decoder.sequence Decoder.text d).map fun modules => (draft.1, { draft.2 with modules })
    | "extra_attributes" =>
      (DetectedAttributes.shape.decode dialect d).map
        fun attributes => (draft.1, { draft.2 with attributes })
    | _ => .ok draft

def decode (dialect : Dialect) : Decoder DetectedExternal := fun d =>
  match shape.decode dialect d with
  | .error e => .error e
  | .ok (spec?, external) => (required "spec" spec?).map fun _ => external

end DetectedExternal

namespace DetectedPackages

/-- A package is a record with the single field `externals`. -/
def packageShape : Decoder.Shape (List DetectedExternal) where
  name := "DetectedPackage"
  fields := ["externals"]
  required := 0
  start := []
  take dialect externals key d :=
    match key with
    | "externals" => Decoder.sequence (DetectedExternal.decode dialect) d
    | _ => .ok externals

def decode (dialect : Dialect) : Decoder DetectedPackages :=
  Decoder.mapping (packageShape.decode dialect)

end DetectedPackages

/-! ## Compilers -/

/-- The compiler of an installation, or why there is none. -/
def DetectedExternal.compiler (host : Host) (package : String) (x : DetectedExternal) :
    Except String Compiler :=
  match Spec.parse x.spec with
  | .error e => .error ("skipping detected " ++ package ++ ": " ++ e.message)
  | .ok spec =>
    let skipped {α : Type} (reason : String) : Except String α :=
      .error ("skipping detected " ++ spec.text ++ ": " ++ reason)
    match x.attributes.compilers.c with
    | none => skipped "no C compiler"
    | some cc =>
      let environment := x.attributes.environment.getD {}
      match environment.fault? with
      | some fault => skipped fault.message
      | none =>
        match FlagSet.ofConfig x.attributes.flags with
        | .error e => skipped e.message
        | .ok flags =>
          .ok { Compiler.new spec host.operatingSystem with
            target := some host.target
            paths :=
              { cc := some cc
                cxx := x.attributes.compilers.cxx
                f77 := x.attributes.compilers.fortran
                fc := x.attributes.compilers.fortran }
            flags, environment
            modules := x.modules
            extraRpaths := x.attributes.extraRpaths }

namespace DetectedPackages

/-- Every installation with the name of its package, by package and in listed order. -/
def externals (ps : DetectedPackages) : List (String × DetectedExternal) :=
  ps.toList.flatMap fun e => e.2.map (e.1, ·)

/-- The compilers of the installations that make one. -/
def compilers (host : Host) (ps : DetectedPackages) : List Compiler :=
  (externals ps).filterMap fun (package, x) => (x.compiler host package).toOption

/-- What is logged about each installation. -/
def logLine (host : Host) (e : String × DetectedExternal) : LogLine :=
  match e.2.compiler host e.1 with
  | .ok c => ⟨.debug, "detected " ++ c.label ++ " (" ++ e.1 ++ ")"⟩
  | .error message => ⟨.warning, message⟩

/-- What is logged while the compilers are built. -/
def logLines (host : Host) (ps : DetectedPackages) : List LogLine :=
  (externals ps).map (logLine host)

/-- Reads packages from JSON data, which may be wrapped once under `packages`. -/
def ofData (d : Data) : Except CompilerError DetectedPackages :=
  match decode .json (Compiler.unwrap "packages" d) with
  | .error fault => .error (.invalidConfig ("detected packages: " ++ fault.message .json))
  | .ok ps => .ok ps

end DetectedPackages

end Toolchain
