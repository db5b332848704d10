import Toolchain.Error

/-!
# Flag categories

User flags are grouped by the stage that they are meant for. A category goes to the
invocations of certain roles: compile flags to the roles of their language, preprocessor,
linker and library flags to all.
-/

namespace Toolchain

/-- A group of user flags. The order of the constructors is the order on a command line. -/
inductive Category
  | cflags
  | cxxflags
  | fflags
  | cppflags
  | ldflags
  | ldlibs
  deriving DecidableEq, Repr

namespace Category

/-- All categories, in command-line order. -/
def all : List Category := [.cflags, .cxxflags, .fflags, .cppflags, .ldflags, .ldlibs]

theorem mem_all (c : Category) : c ∈ all := by cases c <;> decide

/-- The place of a category in `all`. -/
def rank : Category → Nat
  | cflags => 0
  | cxxflags => 1
  | fflags => 2
  | cppflags => 3
  | ldflags => 4
  | ldlibs => 5

theorem rank_inj {a b : Category} (h : a.rank = b.rank) : a = b := by
  cases a <;> cases b <;> simp_all [rank]

/-- The name of a category in a record. -/
def name : Category → String
  | cflags => "cflags"
  | cxxflags => "cxxflags"
  | fflags => "fflags"
  | cppflags => "cppflags"
  | ldflags => "ldflags"
  | ldlibs => "ldlibs"

/-- The roles whose invocations receive a category. -/
def roles : Category → List Role
  | cflags => [.cc]
  | cxxflags => [.cxx]
  | fflags => [.f77, .fc]
  | cppflags => Role.all
  | ldflags => Role.all
  | ldlibs => Role.all

/-- Whether invocations of a role receive a category. -/
def appliesTo (c : Category) (r : Role) : Bool := c.roles.contains r

/-- The category with a name. -/
def ofName? (s : String) : Option Category := all.find? (·.name == s)

theorem ofName?_name (c : Category) : ofName? c.name = some c := by cases c <;> decide

/-- What is said about a name that no category has. -/
def unknownMessage (s : String) : String :=
  "unknown flag category `" ++ s
    ++ "` (expected one of cflags, cxxflags, fflags, cppflags, ldflags, ldlibs)"

/-- The category with a name, or the error about it. -/
def parse (s : String) : Except CompilerError Category :=
  match ofName? s with
  | some c => .ok c
  | none => .error (.invalidConfig (unknownMessage s))

instance : ToString Category := ⟨name⟩

end Category

/-- The category that holds a role's compile flags. -/
def Role.compileCategory : Role → Category
  | .cc => .cflags
  | .cxx => .cxxflags
  | .f77 => .fflags
  | .fc => .fflags

theorem Role.compileCategory_appliesTo (r : Role) : r.compileCategory.appliesTo r = true := by
  cases r <;> decide

end Toolchain
