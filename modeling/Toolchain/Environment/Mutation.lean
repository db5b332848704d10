import Toolchain.Data.Tree
import Toolchain.Environment.Variables

/-!
# Environment mutations

What a compiler wants changed in the environment when it runs: variables to set, to remove,
and path variables to get an entry in front or at the back, in this order.

  * `fault?` — the first variable that cannot be set: those of `set`, of `prependPath` and of
    `appendPath` in name order, then those of `unset` in list order.
  * `apply` — the environment afterwards.
  * `decode`, `data` — the record form. Names to remove are a list or the keys of a table.
-/

namespace Toolchain

/-- Changes to an environment. -/
structure Mutation where
  set : Dict String := ∅
  unset : List String := []
  prependPath : Dict String := ∅
  appendPath : Dict String := ∅
  deriving DecidableEq, Inhabited

namespace Mutation

/-- Whether nothing is changed. -/
def isEmpty (m : Mutation) : Bool :=
  m.set.isEmpty && m.unset.isEmpty && m.prependPath.isEmpty && m.appendPath.isEmpty

/-! ## Validity -/

/-- All variables of a mutation in the order in which they are checked. -/
def changes (m : Mutation) : List Change :=
  (m.set.toList ++ m.prependPath.toList ++ m.appendPath.toList).map
      (fun e => (e.1, some e.2))
    ++ m.unset.map (·, none)

/-- What is wrong with the first variable that cannot be set. -/
def fault? (m : Mutation) : Option VariableFault :=
  m.changes.findSome? fun c => variableFault? c.1 c.2

/-! ## Application -/

/-- Adds an entry to a path variable. -/
def addEntry (place : PathEnd) (env : Environment) (e : String × String) : Environment :=
  env.insert e.1 (withEntry place e.2 (env.get? e.1))

/-- Sets variables one after the other. -/
def setAll (env : Environment) (es : List (String × String)) : Environment :=
  es.foldl (fun env e => env.insert e.1 e.2) env

/-- Removes variables one after the other. -/
def eraseAll (env : Environment) (names : List String) : Environment :=
  names.foldl Dict.erase env

/-- The environment after the changes. -/
def apply (m : Mutation) (env : Environment) : Environment :=
  let env := eraseAll (setAll env m.set.toList) m.unset
  let env := m.prependPath.toList.foldl (addEntry .front) env
  m.appendPath.toList.foldl (addEntry .back) env

@[simp] theorem apply_empty (env : Environment) : ({} : Mutation).apply env = env := rfl

/-! ## Record form -/

/-- Names to remove: a list of names or a table of which only the keys count. -/
def decodeUnset : Decoder (List String)
  | .list items =>
    match Decoder.each Decoder.text items with
    | .ok names => .ok names
    | .error _ => .error (.noAlternative "Unset")
  | .table entries =>
    .ok (Dict.ofList (entries.map fun e => (e.1, ()))).keys
  | _ => .error (.noAlternative "Unset")

/-- How a mutation is decoded. No field has to be given. -/
def shape : Decoder.Shape Mutation where
  name := "EnvironmentMutation"
  fields := ["set", "unset", "prepend_path", "append_path"]
  required := 0
  start := {}
  take _ m key d :=
    match key with
    | "set" => (Decoder.mapping Decoder.text d).map fun set => { m with set }
    | "unset" => (decodeUnset d).map fun unset => { m with unset }
    | "prepend_path" =>
      (Decoder.mapping Decoder.text d).map fun prependPath => { m with prependPath }
    | "append_path" =>
      (Decoder.mapping Decoder.text d).map fun appendPath => { m with appendPath }
    | _ => .ok m

/-- Decodes a mutation. -/
def decode (dialect : Dialect) : Decoder Mutation := shape.decode dialect

/-- A mutation as a table; all four fields are written. -/
def data (m : Mutation) : Data :=
  .table
    [("set", .textTable m.set), ("unset", .texts m.unset),
     ("prepend_path", .textTable m.prependPath), ("append_path", .textTable m.appendPath)]

end Mutation

end Toolchain
