import Toolchain.Environment.Variables

/-!
# Environment dumps

A dump lists an environment as `name=value` entries, each ended by NUL. Comparing two dumps
gives the changes from one to the other, in name order. Four variables that a shell sets
by itself never count (`shellVariables`).
-/

namespace Toolchain

namespace Dump

/-- The character that ends an entry. -/
def nul : Char := '\x00'

/-- Variables that every shell sets by itself. -/
def shellVariables : List String := ["_", "SHLVL", "PWD", "OLDPWD"]

/-- An entry of a dump, if it names a variable that counts. -/
def entry? (piece : List Char) : Option (String × String) :=
  match Text.cutAt '=' piece with
  | none => none
  | some (name, value) =>
    let name := String.ofList name
    if name = "" ∨ name ∈ shellVariables then none else some (name, String.ofList value)

/-- The environment of a dump; of equal names the last entry counts. -/
def read (dump : String) : Environment :=
  Dict.ofList ((Text.pieces (· == nul) dump.toList).filterMap entry?)

/-- Entries as a dump. -/
def write (entries : List (String × String)) : String :=
  String.join (entries.map fun e => e.1 ++ "=" ++ e.2 ++ "\x00")

/-- The changes that lead from one environment to another, in name order. -/
def changes (before after : Environment) : List Change :=
  let kept := (after.toList.filter fun e => before.get? e.1 ≠ some e.2).map
    fun e => (e.1, some e.2)
  let gone := (before.keys.filter fun k => !after.contains k).map (·, none)
  (Dict.ofList (kept ++ gone)).toList

/-- The changes that lead from one dump to another. -/
def difference (before after : String) : List Change := changes (read before) (read after)

example : difference "B=1\x00A=x\x00_=q\x00" "A=y=\x00C=\x00SHLVL=2\x00" =
    [("A", some "y="), ("B", none), ("C", some "")] := by decide +kernel

end Dump

end Toolchain
