import Toolchain.Family
import Toolchain.Role

/-!
# Capabilities

Which flag turns a property on depends on the family and the version. A table gives, for
each family and property, a list of *gates*: from a version on, a flag. Gates are listed in
increasing order; the last one that a version reaches counts, and a version that reaches
none has no flag.

An empty flag means that the compiler does it by default.
-/

namespace Toolchain

/-- What one can ask a compiler for. -/
inductive Property
  | openmp
  | cxx98
  | cxx11
  | cxx14
  | cxx17
  | cxx20
  | c99
  | c11
  | c17
  | c23
  | ccPic
  | cxxPic
  | f77Pic
  | fcPic
  deriving DecidableEq, Repr

namespace Property

/-- All properties, in the order in which they are shown. -/
def all : List Property :=
  [.openmp, .cxx98, .cxx11, .cxx14, .cxx17, .cxx20, .c99, .c11, .c17, .c23, .ccPic, .cxxPic,
   .f77Pic, .fcPic]

theorem mem_all (p : Property) : p ∈ all := by cases p <;> decide

/-- The name of a property. -/
def name : Property → String
  | openmp => "openmp"
  | cxx98 => "cxx98"
  | cxx11 => "cxx11"
  | cxx14 => "cxx14"
  | cxx17 => "cxx17"
  | cxx20 => "cxx20"
  | c99 => "c99"
  | c11 => "c11"
  | c17 => "c17"
  | c23 => "c23"
  | ccPic => "cc_pic"
  | cxxPic => "cxx_pic"
  | f77Pic => "f77_pic"
  | fcPic => "fc_pic"

instance : ToString Property := ⟨name⟩

/-- A name without one `_flag` at its end. -/
def bareName (s : String) : String :=
  match Text.dropEnd? "_flag".toList s.toList with
  | some rest => String.ofList rest
  | none => s

/-- The property with a name, which may end in `_flag`. -/
def ofName? (s : String) : Option Property := all.find? (·.name == bareName s)

/-- What is said about a name that no property has. -/
def unknownMessage (s : String) : String := "unknown flag property `" ++ s ++ "`"

/-- The C++ standards, oldest first. -/
def cxxStandards : List Property := [.cxx98, .cxx11, .cxx14, .cxx17, .cxx20]

/-- The C standards, oldest first. -/
def cStandards : List Property := [.c99, .c11, .c17, .c23]

end Property

/-- The property of position-independent code for a role. -/
def Role.pic : Role → Property
  | .cc => .ccPic
  | .cxx => .cxxPic
  | .f77 => .f77Pic
  | .fc => .fcPic

/-! ## Gates -/

/-- From version `since` on, a property has this flag. -/
structure Gate where
  since : List Nat
  flag : String
  deriving DecidableEq, Repr

/-- The gates of a property with one flag for every version. -/
def always (flag : String) : List Gate := [⟨[], flag⟩]

namespace Family

/-- The flag for position-independent code, which every version has. -/
def picFlag : Family → String
  | nvhpc => "-fpic"
  | _ => "-fPIC"

/-- The table: the gates of a property, in increasing order. -/
def gates : Family → Property → List Gate
  | f, .ccPic => always f.picFlag
  | f, .cxxPic => always f.picFlag
  | f, .f77Pic => always f.picFlag
  | f, .fcPic => always f.picFlag
  | gcc, .openmp => always "-fopenmp"
  | gcc, .cxx98 => always "-std=c++98"
  | gcc, .cxx11 => [⟨[4, 3], "-std=c++0x"⟩, ⟨[4, 7], "-std=c++11"⟩]
  | gcc, .cxx14 => [⟨[4, 8], "-std=c++1y"⟩, ⟨[4, 9], "-std=c++14"⟩]
  | gcc, .cxx17 => [⟨[5], "-std=c++1z"⟩, ⟨[6], "-std=c++17"⟩]
  | gcc, .cxx20 => [⟨[8], "-std=c++2a"⟩, ⟨[10], "-std=c++20"⟩]
  | gcc, .c99 => [⟨[4, 5], "-std=c99"⟩]
  | gcc, .c11 => [⟨[4, 7], "-std=c11"⟩]
  | gcc, .c17 => [⟨[8], "-std=c17"⟩]
  | gcc, .c23 => [⟨[9], "-std=c2x"⟩, ⟨[14], "-std=c23"⟩]
  | clang, .openmp => always "-fopenmp"
  | clang, .cxx98 => always "-std=c++98"
  | clang, .cxx11 => [⟨[3, 3], "-std=c++11"⟩]
  | clang, .cxx14 => [⟨[3, 4], "-std=c++1y"⟩, ⟨[3, 5], "-std=c++14"⟩]
  | clang, .cxx17 => [⟨[3, 5], "-std=c++1z"⟩, ⟨[5], "-std=c++17"⟩]
  | clang, .cxx20 => [⟨[5], "-std=c++2a"⟩, ⟨[10], "-std=c++20"⟩]
  | clang, .c99 => always "-std=c99"
  | clang, .c11 => [⟨[3, 1], "-std=c11"⟩]
  | clang, .c17 => [⟨[6], "-std=c17"⟩]
  | clang, .c23 => [⟨[9], "-std=c2x"⟩, ⟨[18], "-std=c23"⟩]
  | appleClang, .openmp => always "-Xpreprocessor -fopenmp"
  | appleClang, .cxx98 => always "-std=c++98"
  | appleClang, .cxx11 => [⟨[4], "-std=c++11"⟩]
  | appleClang, .cxx14 => [⟨[5, 1], "-std=c++14"⟩]
  | appleClang, .cxx17 => [⟨[6, 1], "-std=c++1z"⟩, ⟨[10], "-std=c++17"⟩]
  | appleClang, .cxx20 => [⟨[10], "-std=c++2a"⟩, ⟨[13], "-std=c++20"⟩]
  | appleClang, .c99 => always "-std=c99"
  | appleClang, .c11 => always "-std=c11"
  | appleClang, .c17 => [⟨[11], "-std=c17"⟩]
  | appleClang, .c23 => [⟨[11, 3], "-std=c2x"⟩]
  | intel, .openmp => [⟨[], "-openmp"⟩, ⟨[16], "-qopenmp"⟩]
  | intel, .cxx98 => always "-std=c++98"
  | intel, .cxx11 => [⟨[11, 1], "-std=c++0x"⟩, ⟨[13], "-std=c++11"⟩]
  | intel, .cxx14 => [⟨[15], "-std=c++1y"⟩, ⟨[15, 0, 2], "-std=c++14"⟩]
  | intel, .cxx17 => [⟨[19], "-std=c++17"⟩]
  | intel, .cxx20 => [⟨[2021], "-std=c++20"⟩]
  | intel, .c99 => [⟨[12], "-std=c99"⟩]
  | intel, .c11 => [⟨[16], "-std=c1x"⟩]
  | intel, .c17 => [⟨[2021], "-std=c17"⟩]
  | intel, .c23 => []
  | oneapi, .openmp => always "-fiopenmp"
  | oneapi, .cxx98 => always "-std=c++98"
  | oneapi, .cxx11 => always "-std=c++11"
  | oneapi, .cxx14 => always "-std=c++14"
  | oneapi, .cxx17 => always "-std=c++17"
  | oneapi, .cxx20 => always "-std=c++20"
  | oneapi, .c99 => always "-std=c99"
  | oneapi, .c11 => always "-std=c1x"
  | oneapi, .c17 => always "-std=c17"
  | oneapi, .c23 => [⟨[2022], "-std=c2x"⟩]
  | nvhpc, .openmp => always "-mp"
  | nvhpc, .cxx98 => []
  | nvhpc, .cxx11 => always "--c++11"
  | nvhpc, .cxx14 => always "--c++14"
  | nvhpc, .cxx17 => always "--c++17"
  | nvhpc, .cxx20 => [⟨[21, 3], "--c++20"⟩]
  | nvhpc, .c99 => always "-c99"
  | nvhpc, .c11 => always "-c11"
  | nvhpc, .c17 => [⟨[21, 3], "-c17"⟩]
  | nvhpc, .c23 => []
  | generic, .cxx98 => always ""
  | generic, _ => []

end Family

/-! ## Looking up a flag -/

/-- Why a compiler has no flag for a property. -/
inductive Shortfall
  /-- The family has one from this version on. -/
  | tooOld (family : Family) (since : List Nat)
  /-- The family has none at any version. -/
  | absent (family : Family)
  deriving DecidableEq, Repr

/-- The reason that a message gives. -/
def Shortfall.reason : Shortfall → String
  | tooOld family since => "requires " ++ family.name ++ " " ++ dottedOf since ++ " or newer"
  | absent family => "not available for " ++ family.name

/-- The answer to the question for a flag. -/
inductive Support
  | supported (flag : String)
  | unsupported (why : Shortfall)
  deriving DecidableEq, Repr

/-- The last gate that a version reaches. -/
def reachedGate? (gates : List Gate) (v : Version) : Option Gate :=
  gates.reverse.find? fun g => v.atLeast g.since

/-- The flag of a property for a family at a version. -/
def Family.flag (f : Family) (p : Property) (v : Version) : Support :=
  match reachedGate? (f.gates p) v with
  | some gate => .supported gate.flag
  | none =>
    match f.gates p with
    | first :: _ => .unsupported (.tooOld f first.since)
    | [] => .unsupported (.absent f)

end Toolchain
