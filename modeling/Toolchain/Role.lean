import Toolchain.Text.Pad

/-!
# Roles

A toolchain has up to four executables: a C, a C++, and two Fortran compilers. `Role.all`
fixes the order in which they are visited.
-/

namespace Toolchain

/-- What an executable of a toolchain compiles. -/
inductive Role
  | cc
  | cxx
  | f77
  | fc
  deriving DecidableEq, Repr

namespace Role

/-- All roles, in the order in which they are visited. -/
def all : List Role := [.cc, .cxx, .f77, .fc]

theorem mem_all (r : Role) : r ∈ all := by cases r <;> decide

/-- The name of a role in a configuration record. -/
def key : Role → String
  | .cc => "cc"
  | .cxx => "cxx"
  | .f77 => "f77"
  | .fc => "fc"

/-- The language of a role, as people write it. -/
def language : Role → String
  | .cc => "C"
  | .cxx => "C++"
  | .f77 => "Fortran 77"
  | .fc => "Fortran 90"

/-- The role of a name in a configuration record. -/
def ofKey? (s : String) : Option Role := all.find? (·.key == s)

theorem ofKey?_key (r : Role) : ofKey? r.key = some r := by cases r <;> decide

instance : ToString Role := ⟨language⟩

end Role

end Toolchain
