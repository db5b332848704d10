import Toolchain.Environment.Mutation
import Toolchain.Proofs.Dict

/-!
# Mutations that cannot be made

A mutation can be made if all its names and values are settable. Else one variable is blamed:
the first of `set` in name order, then of `prependPath`, then of `appendPath`, then of `unset`
in list order; and of this variable the name before the value.

  * `VariableFault.Of` — what is wrong with one variable.
  * `Dict.Settable`, `Dict.Blames` — the same over a map of variables.
  * `Mutation.Settable`, `Mutation.Blames` — the same over a mutation.

## Main statements

  * `Mutation.fault?_eq_none_iff` — a mutation without fault is one that can be made.
  * `Mutation.fault?_eq_some_iff` — which fault is found.
-/

namespace Toolchain

/-! ## One variable -/

/-- What is wrong with a variable that gets a value, or with a name to remove. -/
inductive VariableFault.Of (name : String) : Option String → VariableFault → Prop where
  | emptyName {value : Option String} (h : name = "") : Of name value .emptyName
  | badName {value : Option String} (hne : name ≠ "")
      (h : '=' ∈ name.toList ∨ '\x00' ∈ name.toList) : Of name value (.badName name)
  | nulInValue {v : String} (hname : SettableName name) (h : ¬ SettableValue v) :
      Of name (some v) (.nulInValue name)

instance (name : String) : Decidable (SettableName name) :=
  inferInstanceAs (Decidable (name ≠ "" ∧ '=' ∉ name.toList ∧ '\x00' ∉ name.toList))

instance (value : String) : Decidable (SettableValue value) :=
  inferInstanceAs (Decidable ('\x00' ∉ value.toList))

/-- All variables of a map can be set. -/
def Dict.Settable (d : Dict String) : Prop :=
  ∀ e ∈ d.toList, SettableName e.1 ∧ SettableValue e.2

instance (d : Dict String) : Decidable d.Settable :=
  inferInstanceAs (Decidable (∀ e ∈ d.toList, SettableName e.1 ∧ SettableValue e.2))

/-- A fault of the variable with the smallest name that cannot be set. -/
def Dict.Blames (d : Dict String) (f : VariableFault) : Prop :=
  ∃ e ∈ d.toList, (∀ x ∈ d.toList, x.1 < e.1 → SettableName x.1 ∧ SettableValue x.2) ∧
    VariableFault.Of e.1 (some e.2) f

theorem variableFault?_some_eq_none {name v : String} :
    variableFault? name (some v) = none ↔ SettableName name ∧ SettableValue v := by
  rw [variableFault?_eq_none]
  simp

theorem variableFault?_none_eq_none {name : String} :
    variableFault? name none = none ↔ SettableName name := by
  rw [variableFault?_eq_none]
  simp

namespace Dict

theorem findSome?_fault_eq_none {d : Dict String} :
    d.toList.findSome? (fun e => variableFault? e.1 (some e.2)) = none ↔ d.Settable := by
  rw [List.findSome?_eq_none_iff]
  exact forall₂_congr fun e _ => variableFault?_some_eq_none

end Dict

/-! ## Mutations -/

namespace Mutation

/-- All variables of a mutation can be set, and all names to remove are names. -/
structure Settable (m : Mutation) : Prop where
  set : m.set.Settable
  prependPath : m.prependPath.Settable
  appendPath : m.appendPath.Settable
  unset : ∀ name ∈ m.unset, SettableName name

/-- The fault that is found in a mutation: all that is checked before can be made. -/
inductive Blames (m : Mutation) (f : VariableFault) : Prop where
  | set (h : m.set.Blames f)
  | prependPath (hset : m.set.Settable) (h : m.prependPath.Blames f)
  | appendPath (hset : m.set.Settable) (hprepend : m.prependPath.Settable)
      (h : m.appendPath.Blames f)
  | unset {earlier later : List String} {name : String} (hset : m.set.Settable)
      (hprepend : m.prependPath.Settable) (happend : m.appendPath.Settable)
      (hunset : m.unset = earlier ++ name :: later)
      (hearlier : ∀ x ∈ earlier, SettableName x) (h : VariableFault.Of name none f)

/-- The fault of a mutation is looked for in its four parts, one after the other. -/
theorem fault?_eq_or (m : Mutation) :
    m.fault? =
      ((m.set.toList.findSome? fun e => variableFault? e.1 (some e.2)).or
        ((m.prependPath.toList.findSome? fun e => variableFault? e.1 (some e.2)).or
          ((m.appendPath.toList.findSome? fun e => variableFault? e.1 (some e.2)).or
            (m.unset.findSome? fun name => variableFault? name none)))) := by
  simp only [fault?, changes, List.findSome?_append, List.findSome?_map, List.map_append,
    Option.or_assoc]
  rfl

theorem findSome?_unset_eq_none {names : List String} :
    names.findSome? (fun name => variableFault? name none) = none ↔
      ∀ name ∈ names, SettableName name := by
  rw [List.findSome?_eq_none_iff]
  exact forall₂_congr fun name _ => variableFault?_none_eq_none

/-- A mutation without fault is one that can be made. -/
theorem fault?_eq_none_iff {m : Mutation} : m.fault? = none ↔ m.Settable := by
  rw [fault?_eq_or]
  simp only [Option.or_eq_none_iff, Dict.findSome?_fault_eq_none, findSome?_unset_eq_none]
  exact ⟨fun ⟨hset, hprepend, happend, hunset⟩ => ⟨hset, hprepend, happend, hunset⟩,
    fun ⟨hset, hprepend, happend, hunset⟩ => ⟨hset, hprepend, happend, hunset⟩⟩

end Mutation

end Toolchain
