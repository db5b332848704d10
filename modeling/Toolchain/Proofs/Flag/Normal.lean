import Mathlib.Data.List.Nodup
import Toolchain.Proofs.Dict
import Toolchain.Flag.Atoms

/-!
# The stored form of a flag set

Every operation keeps a flag set in its normal form: the categories that have atoms, in
order. A flag set in this form is known by the atoms of each category.

## Main statements

  * `mem_set`, `normal_set`, `get_set` — what setting a category does.
  * `mem_entries_iff`, `entries_eq` — the entries are the categories that have atoms, in order.
  * `Normal.ext_get` — two sets with the same atoms in every category are equal.
-/

namespace Toolchain

/-! ## Names of categories -/

theorem Category.name_inj {a b : Category} (h : a.name = b.name) : a = b := by
  have hname : some a = some b := by rw [← ofName?_name a, ← ofName?_name b, h]
  exact Option.some.inj hname

theorem Category.parse_name (c : Category) : Category.parse c.name = .ok c := by
  unfold parse
  rw [ofName?_name]

/-- What is read as a category is its name. -/
theorem Category.name_of_parse {s : String} {c : Category} (h : Category.parse s = .ok c) :
    c.name = s := by
  unfold parse at h
  split at h
  · next c' hfind =>
    obtain rfl : c' = c := Except.ok.inj h
    have hname := List.find?_some hfind
    simpa using hname
  · cases h

namespace FlagSet

/-! ## Setting a category -/

/-- The entries are in category order. -/
abbrev RankSorted (es : List (Category × List String)) : Prop :=
  es.Pairwise fun a b => a.1.rank < b.1.rank

theorem nodup_of_rankSorted {es : List (Category × List String)} (h : RankSorted es) :
    (es.map Prod.fst).Nodup := by
  refine List.pairwise_map.2 (h.imp ?_)
  intro a b hab heq
  rw [heq] at hab
  exact Nat.lt_irrefl _ hab

/-- Entries in category order are known by which they are. -/
theorem RankSorted.eq_of_mem_iff {es es' : List (Category × List String)} (h : RankSorted es)
    (h' : RankSorted es') (hmem : ∀ e, e ∈ es ↔ e ∈ es') : es = es' := by
  have hperm : es.Perm es' :=
    (List.perm_ext_iff_of_nodup (nodup_of_rankSorted h).of_map
      (nodup_of_rankSorted h').of_map).2 hmem
  exact hperm.eq_of_pairwise
    (fun a b _ _ hab hba => absurd (Nat.lt_trans hab hba) (Nat.lt_irrefl _)) h h'

/-- The entries after putting one in are this one and those of the other categories. -/
theorem mem_putAtoms {c : Category} {atoms : List String} {es : List (Category × List String)}
    (h : RankSorted es) {e : Category × List String} :
    e ∈ putAtoms c atoms es ↔ e = (c, atoms) ∨ e ∈ es ∧ e.1 ≠ c := by
  induction es with
  | nil => simp [putAtoms]
  | cons a rest ih =>
    obtain ⟨ha, hrest⟩ := List.pairwise_cons.1 h
    unfold putAtoms
    split
    · next hlt =>
      -- all entries stand behind `c`, so none of them is of its category
      have hne : ∀ x ∈ a :: rest, x.1 ≠ c := by
        rintro x hx rfl
        rcases List.mem_cons.1 hx with rfl | hx
        · omega
        · have := ha x hx
          omega
      rw [List.mem_cons]
      constructor
      · rintro (he | he)
        · exact .inl he
        · exact .inr ⟨he, hne e he⟩
      · rintro (he | ⟨he, -⟩)
        · exact .inl he
        · exact .inr he
    · split
      · next hc =>
        have hne : ∀ x ∈ rest, x.1 ≠ c := by
          rintro x hx rfl
          have := ha x hx
          rw [hc] at this
          omega
        rw [List.mem_cons, List.mem_cons]
        constructor
        · rintro (he | he)
          · exact .inl he
          · exact .inr ⟨.inr he, hne e he⟩
        · rintro (he | ⟨rfl | he, hec⟩)
          · exact .inl he
          · exact absurd hc.symm hec
          · exact .inr he
      · next hc =>
        rw [List.mem_cons, ih hrest, List.mem_cons]
        constructor
        · rintro (rfl | he | ⟨he, hec⟩)
          · exact .inr ⟨.inl rfl, Ne.symm hc⟩
          · exact .inl he
          · exact .inr ⟨.inr he, hec⟩
        · rintro (he | ⟨rfl | he, hec⟩)
          · exact .inr (.inl he)
          · exact .inl rfl
          · exact .inr (.inr ⟨he, hec⟩)

theorem rankSorted_putAtoms {c : Category} {atoms : List String}
    {es : List (Category × List String)} (h : RankSorted es) :
    RankSorted (putAtoms c atoms es) := by
  induction es with
  | nil => exact List.pairwise_singleton _ _
  | cons a rest ih =>
    obtain ⟨ha, hrest⟩ := List.pairwise_cons.1 h
    unfold putAtoms
    split
    · next hlt =>
      refine List.pairwise_cons.2 ⟨?_, h⟩
      intro x hx
      rcases List.mem_cons.1 hx with rfl | hx
      · exact hlt
      · exact Nat.lt_trans hlt (ha x hx)
    · split
      · next hc => exact List.pairwise_cons.2 ⟨fun x hx => hc ▸ ha x hx, hrest⟩
      · next hlt hc =>
        refine List.pairwise_cons.2 ⟨?_, ih hrest⟩
        intro x hx
        rcases (mem_putAtoms hrest).1 hx with rfl | ⟨hx, -⟩
        · have hne : c.rank ≠ a.1.rank := fun hrank => hc (Category.rank_inj hrank)
          show a.1.rank < c.rank
          omega
        · exact ha x hx

/-- The entries after setting a category are those of the other ones, and its own if it has
any atoms. -/
theorem mem_set {fs : FlagSet} (h : fs.Normal) {c : Category} {atoms : List String}
    {e : Category × List String} :
    e ∈ (fs.set c atoms).entries ↔ e = (c, atoms) ∧ atoms ≠ [] ∨ e ∈ fs.entries ∧ e.1 ≠ c := by
  unfold set
  split
  · next hnil => simp [hnil]
  · next hatoms =>
    rw [mem_putAtoms h.1]
    simp [hatoms]

/-- Setting a category keeps the normal form. -/
theorem normal_set {fs : FlagSet} (h : fs.Normal) (c : Category) (atoms : List String) :
    (fs.set c atoms).Normal := by
  constructor
  · unfold set
    split
    · exact h.1.filter _
    · exact rankSorted_putAtoms h.1
  · intro e he
    rcases (mem_set h).1 he with ⟨rfl, hatoms⟩ | ⟨he, -⟩
    · exact hatoms
    · exact h.2 e he

/-! ## The atoms of a category -/

/-- In a normal form, the entries are the categories that have atoms. -/
theorem mem_entries_iff {fs : FlagSet} (h : fs.Normal) {c : Category} {atoms : List String} :
    (c, atoms) ∈ fs.entries ↔ fs.get c = atoms ∧ atoms ≠ [] := by
  unfold get
  cases hfind : fs.entries.find? (·.1 == c) with
  | none =>
    have hnone : ∀ e ∈ fs.entries, e.1 ≠ c := by simpa using hfind
    constructor
    · intro hm
      exact absurd rfl (hnone _ hm)
    · rintro ⟨rfl, hne⟩
      exact absurd rfl hne
  | some e =>
    have hmem : e ∈ fs.entries := List.mem_of_find?_eq_some hfind
    have hcat : e.1 = c := by simpa using List.find?_some hfind
    constructor
    · intro hm
      -- two entries of one category would not be in order
      have heq : (c, atoms) = e :=
        List.inj_on_of_nodup_map (nodup_of_rankSorted h.1) hm hmem hcat.symm
      subst heq
      exact ⟨rfl, h.2 _ hmem⟩
    · rintro ⟨rfl, -⟩
      rw [← hcat]
      exact hmem

theorem rankSorted_all (fs : FlagSet) (p : Category → Bool) :
    RankSorted ((Category.all.filter p).map fun c => (c, fs.get c)) := by
  have hall : Category.all.Pairwise fun a b => a.rank < b.rank := by decide
  exact List.pairwise_map.2 (hall.filter p)

/-- The entries of a normal form, category by category. -/
theorem entries_eq {fs : FlagSet} (h : fs.Normal) :
    fs.entries = (Category.all.filter (fs.get · ≠ [])).map fun c => (c, fs.get c) := by
  refine RankSorted.eq_of_mem_iff h.1 (rankSorted_all fs _) ?_
  rintro ⟨c, atoms⟩
  rw [mem_entries_iff h, List.mem_map]
  constructor
  · rintro ⟨rfl, hne⟩
    exact ⟨c, List.mem_filter.2 ⟨Category.mem_all c, by simpa using hne⟩, rfl⟩
  · rintro ⟨c', hc', heq⟩
    obtain ⟨rfl, rfl⟩ := Prod.mk.inj heq
    exact ⟨rfl, by simpa using (List.mem_filter.1 hc').2⟩

/-- Two sets with the same atoms in every category are equal. -/
theorem Normal.ext_get {fs gs : FlagSet} (hf : fs.Normal) (hg : gs.Normal)
    (h : ∀ c, fs.get c = gs.get c) : fs = gs := by
  have hmem : ∀ e, e ∈ fs.entries ↔ e ∈ gs.entries := by
    rintro ⟨c, atoms⟩
    rw [mem_entries_iff hf, mem_entries_iff hg, h]
  have heq : fs.entries = gs.entries := RankSorted.eq_of_mem_iff hf.1 hg.1 hmem
  cases fs
  cases gs
  cases heq
  rfl

/-- Setting a category gives it its atoms and leaves the others alone. -/
theorem get_set {fs : FlagSet} (h : fs.Normal) (c : Category) (atoms : List String)
    (c' : Category) : (fs.set c atoms).get c' = if c' = c then atoms else fs.get c' := by
  have hset := normal_set h c atoms
  by_cases hne : (if c' = c then atoms else fs.get c') = []
  · -- no entry of the category is left
    rw [hne]
    by_contra hget
    have hmem := (mem_entries_iff hset).2 ⟨rfl, hget⟩
    rcases (mem_set h).1 hmem with ⟨heq, hatoms⟩ | ⟨hold, hcat⟩
    · rw [if_pos (congrArg Prod.fst heq)] at hne
      exact hatoms hne
    · rw [if_neg hcat] at hne
      obtain ⟨hget', hne'⟩ := (mem_entries_iff h).1 hold
      exact hne' (hget'.symm.trans hne)
  · refine ((mem_entries_iff hset).1 ((mem_set h).2 ?_)).1
    split at hne
    · next hc =>
      rw [if_pos hc, hc]
      exact .inl ⟨rfl, hne⟩
    · next hc =>
      rw [if_neg hc]
      exact .inr ⟨(mem_entries_iff h).2 ⟨rfl, hne⟩, hc⟩

end FlagSet

end Toolchain
