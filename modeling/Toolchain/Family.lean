import Toolchain.Version

/-!
# Compiler families

A family is a vendor whose compilers share their ways: how they show the link line, which
libraries they bring along, which debug and optimization flags they know. The set of
families is closed; a name that none of them has belongs to `generic`.
-/

namespace Toolchain

/-- The vendor of a compiler. -/
inductive Family
  | gcc
  | clang
  | appleClang
  | intel
  | oneapi
  | nvhpc
  | generic
  deriving DecidableEq, Repr

namespace Family

/-- All families. -/
def all : List Family := [.gcc, .clang, .appleClang, .intel, .oneapi, .nvhpc, .generic]

theorem mem_all (f : Family) : f ∈ all := by cases f <;> decide

/-- The family of a compiler or package name. -/
def ofName (name : String) : Family :=
  if name = "gcc" then .gcc
  else if name = "clang" ∨ name = "llvm" then .clang
  else if name = "apple-clang" then .appleClang
  else if name = "intel" then .intel
  else if name = "oneapi" ∨ name = "intel-oneapi-compilers" then .oneapi
  else if name = "nvhpc" then .nvhpc
  else .generic

/-- The name of a family. -/
def name : Family → String
  | gcc => "gcc"
  | clang => "clang"
  | appleClang => "apple-clang"
  | intel => "intel"
  | oneapi => "oneapi"
  | nvhpc => "nvhpc"
  | generic => "generic"

theorem ofName_name (f : Family) : ofName f.name = f := by cases f <;> decide

instance : ToString Family := ⟨name⟩

/-- The flag that makes a driver show its link line. -/
def verboseFlag? : Family → Option String
  | generic => none
  | _ => some "-v"

/-- The runtime libraries whose directories a driver adds to a link. -/
def requiredLibs : Family → List String
  | gcc => ["libgcc", "libgfortran"]
  | clang => ["libclang"]
  | appleClang => ["libclang"]
  | intel => ["libirc", "libifcore", "libifcoremt", "libirng"]
  | oneapi =>
    ["libirc", "libifcore", "libifcoremt", "libirng", "libsvml", "libintlc", "libimf", "libsycl",
     "libOpenCL"]
  | nvhpc => ["libnvc", "libnvf"]
  | generic => []

/-- The flags that link the C++ standard library from a driver of another language. -/
def stdcxxLibs? : Family → Option (List String)
  | gcc => some ["-lstdc++"]
  | clang => some ["-lstdc++"]
  | appleClang => some ["-lc++"]
  | intel => some ["-cxxlib"]
  | oneapi => some ["-cxxlib"]
  | nvhpc => some ["-c++libs"]
  | generic => none

/-- The debug flags of the compilers built on one backend. -/
def llvmDebugFlags : List String :=
  ["-gcodeview", "-gdwarf-2", "-gdwarf-3", "-gdwarf-4", "-gdwarf-5", "-gline-tables-only",
   "-gmodules", "-g"]

/-- The flags that ask for debug information. -/
def debugFlags : Family → List String
  | gcc => ["-g", "-gstabs+", "-gstabs", "-gxcoff+", "-gxcoff", "-gvms"]
  | clang => llvmDebugFlags
  | appleClang => llvmDebugFlags
  | intel => ["-debug", "-g", "-g0", "-g1", "-g2", "-g3"]
  | oneapi => ["-debug", "-g", "-g0", "-g1", "-g2", "-g3"]
  | nvhpc => ["-g", "-gopt"]
  | generic => ["-g"]

/-- The flags that select an optimization level. -/
def optFlags : Family → List String
  | gcc => ["-O", "-O0", "-O1", "-O2", "-O3", "-Os", "-Ofast", "-Og"]
  | clang => ["-O0", "-O1", "-O2", "-O3", "-Ofast", "-Os", "-Oz", "-Og", "-O", "-O4"]
  | appleClang => ["-O0", "-O1", "-O2", "-O3", "-Ofast", "-Os", "-Oz", "-Og", "-O", "-O4"]
  | intel => ["-O", "-O0", "-O1", "-O2", "-O3", "-Ofast", "-Os"]
  | oneapi => ["-O", "-O0", "-O1", "-O2", "-O3", "-Ofast", "-Os"]
  | nvhpc => ["-O", "-O0", "-O1", "-O2", "-O3", "-O4"]
  | generic => ["-O", "-O0", "-O1", "-O2", "-O3"]

/-- What stands before an argument that a driver hands to the linker. -/
def linkerArg (_ : Family) : String := "-Wl,"

/-- The linker flag that prefers `RPATH`. -/
def disableNewDtags : Family → String
  | appleClang => ""
  | _ => "--disable-new-dtags"

/-- The linker flag that prefers `RUNPATH`. -/
def enableNewDtags : Family → String
  | appleClang => ""
  | _ => "--enable-new-dtags"

end Family

end Toolchain
