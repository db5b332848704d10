/-!
# Finite maps with string keys

A `Dict α` holds finitely many entries, each key once, in increasing order of the keys.
The order is part of the type, so two maps with the same answers are equal (`ext_get?`)
and listing a map needs no sorting.

  * `get?`, `insert`, `erase` — one entry; `ofList` — the last entry of a key wins.
  * `toList` — all entries in key order.

## Main statements

One lemma per operation says what `get?` answers afterwards, and `ext_get?` says that
nothing else can be seen.
-/

namespace Toolchain

/-! ## Entries in key order -/

/-- Puts an entry at its place, over an entry of the same key. -/
def putEntry {α : Type} (k : String) (v : α) : List (String × α) → List (String × α)
  | [] => [(k, v)]
  | e :: rest =>
    if k < e.1 then (k, v) :: e :: rest
    else if k = e.1 then (k, v) :: rest
    else e :: putEntry k v rest

/-- The keys of the entries increase. -/
abbrev KeySorted {α : Type} (es : List (String × α)) : Prop :=
  es.Pairwise fun a b => a.1 < b.1

theorem mem_putEntry {α : Type} {k : String} {v : α} {es : List (String × α)} {e : String × α}
    (h : e ∈ putEntry k v es) : e = (k, v) ∨ e ∈ es := by
  induction es with
  | nil => simpa [putEntry] using h
  | cons a rest ih =>
    unfold putEntry at h
    split at h
    · simpa using h
    · split at h
      · rcases List.mem_cons.1 h with h | h
        · exact .inl h
        · exact .inr (List.mem_cons_of_mem _ h)
      · rcases List.mem_cons.1 h with h | h
        · exact .inr (h ▸ List.mem_cons_self ..)
        · exact (ih h).imp_right (List.mem_cons_of_mem _)

theorem keySorted_putEntry {α : Type} {k : String} {v : α} {es : List (String × α)}
    (h : KeySorted es) : KeySorted (putEntry k v es) := by
  induction es with
  | nil => simp [putEntry]
  | cons a rest ih =>
    have ha := List.pairwise_cons.1 h
    unfold putEntry
    split
    · rename_i hk
      refine List.pairwise_cons.2 ⟨?_, h⟩
      intro b hb
      rcases List.mem_cons.1 hb with rfl | hb
      · exact hk
      · exact String.lt_trans hk (ha.1 b hb)
    · split
      · rename_i hk
        exact List.pairwise_cons.2 ⟨fun b hb => by simpa [hk] using ha.1 b hb, ha.2⟩
      · rename_i h₁ h₂
        refine List.pairwise_cons.2 ⟨?_, ih ha.2⟩
        intro b hb
        rcases mem_putEntry hb with rfl | hb
        · exact Std.lt_of_le_of_ne (String.not_lt.1 h₁) (Ne.symm h₂)
        · exact ha.1 b hb

/-- The value of a key among entries. -/
def findEntry {α : Type} (k : String) : List (String × α) → Option α
  | [] => none
  | e :: rest => if e.1 = k then some e.2 else findEntry k rest

theorem findEntry_eq_none {α : Type} {k : String} {es : List (String × α)}
    (h : ∀ e ∈ es, e.1 ≠ k) : findEntry k es = none := by
  induction es with
  | nil => rfl
  | cons a rest ih =>
    simp [findEntry, h a (List.mem_cons_self ..), ih fun e he => h e (List.mem_cons_of_mem _ he)]

theorem findEntry_eq_some_iff {α : Type} {k : String} {v : α} {es : List (String × α)}
    (h : KeySorted es) : findEntry k es = some v ↔ (k, v) ∈ es := by
  induction es with
  | nil => simp [findEntry]
  | cons a rest ih =>
    have ha := List.pairwise_cons.1 h
    unfold findEntry
    split
    · rename_i hk
      constructor
      · intro e
        rw [List.mem_cons]
        left
        rw [← hk, ← Option.some.inj e]
      · intro hm
        rcases List.mem_cons.1 hm with e | hm
        · rw [← e]
        · have hlt := ha.1 _ hm
          rw [hk] at hlt
          exact absurd hlt (String.lt_irrefl k)
    · rename_i hk
      rw [ih ha.2, List.mem_cons]
      constructor
      · exact .inr
      · rintro (e | e)
        · exact absurd (by rw [← e]) hk
        · exact e

/-! ## The type -/

/-- Finitely many entries in strictly increasing order of their keys. -/
structure Dict (α : Type) where
  entries : List (String × α)
  sorted : KeySorted entries

namespace Dict

variable {α : Type}

theorem entries_inj {d d' : Dict α} (h : d.entries = d'.entries) : d = d' := by
  cases d; cases d'; cases h; rfl

instance [DecidableEq α] : DecidableEq (Dict α) := fun a b =>
  if h : a.entries = b.entries then .isTrue (entries_inj h)
  else .isFalse fun e => h (by rw [e])

/-- The map without entries. -/
def empty : Dict α := ⟨[], List.Pairwise.nil⟩

instance : Inhabited (Dict α) := ⟨empty⟩
instance : EmptyCollection (Dict α) := ⟨empty⟩

/-- All entries, in key order. -/
def toList (d : Dict α) : List (String × α) := d.entries

/-- The keys, in order. -/
def keys (d : Dict α) : List String := d.entries.map Prod.fst

/-- How many entries there are. -/
def size (d : Dict α) : Nat := d.entries.length

/-- Whether there is no entry. -/
def isEmpty (d : Dict α) : Bool := d.entries.isEmpty

/-- The value of a key. -/
def get? (d : Dict α) (k : String) : Option α := findEntry k d.entries

/-- Whether a key has a value. -/
def contains (d : Dict α) (k : String) : Bool := (d.get? k).isSome

/-- Gives a key a value, over the one that it had. -/
def insert (d : Dict α) (k : String) (v : α) : Dict α :=
  ⟨putEntry k v d.entries, keySorted_putEntry d.sorted⟩

/-- Takes a key away. -/
def erase (d : Dict α) (k : String) : Dict α :=
  ⟨d.entries.filter (·.1 ≠ k), d.sorted.filter _⟩

/-- The map of a list of entries, of which the last one of a key counts. -/
def ofList (es : List (String × α)) : Dict α :=
  es.foldl (fun d e => d.insert e.1 e.2) empty

/-! ## What `get?` answers -/

@[simp] theorem get?_empty (k : String) : (empty : Dict α).get? k = none := rfl

theorem get?_eq_some_iff {d : Dict α} {k : String} {v : α} :
    d.get? k = some v ↔ (k, v) ∈ d.toList :=
  findEntry_eq_some_iff d.sorted

@[simp] theorem get?_insert_self (d : Dict α) (k : String) (v : α) :
    (d.insert k v).get? k = some v := by
  rw [get?_eq_some_iff]
  show (k, v) ∈ putEntry k v d.entries
  induction d.entries with
  | nil => simp [putEntry]
  | cons a rest ih =>
    unfold putEntry
    split
    · simp
    · split
      · simp
      · exact List.mem_cons_of_mem _ ih

theorem findEntry_putEntry_ne {k k' : String} (h : k' ≠ k) (v : α) (es : List (String × α)) :
    findEntry k' (putEntry k v es) = findEntry k' es := by
  induction es with
  | nil => simp [putEntry, findEntry, Ne.symm h]
  | cons a rest ih =>
    unfold putEntry
    split
    · simp [findEntry, Ne.symm h]
    · split
      · rename_i hk
        simp [findEntry, ← hk, Ne.symm h]
      · simp [findEntry, ih]

@[simp] theorem get?_insert_ne {k k' : String} (h : k' ≠ k) (d : Dict α) (v : α) :
    (d.insert k v).get? k' = d.get? k' :=
  findEntry_putEntry_ne h v d.entries

@[simp] theorem get?_erase_self (d : Dict α) (k : String) : (d.erase k).get? k = none :=
  findEntry_eq_none fun e he => by simpa using (List.mem_filter.1 he).2

@[simp] theorem get?_erase_ne {k k' : String} (h : k' ≠ k) (d : Dict α) :
    (d.erase k).get? k' = d.get? k' := by
  show findEntry k' (d.entries.filter (·.1 ≠ k)) = findEntry k' d.entries
  simp only [ne_eq, decide_not]
  induction d.entries with
  | nil => rfl
  | cons a rest ih =>
    by_cases hk : a.1 = k
    · simp [hk, findEntry, Ne.symm h, ih]
    · simp [hk, findEntry, ih]

/-- Two sorted lists with the same members are equal. -/
theorem eq_of_keySorted {es es' : List (String × α)} (h : KeySorted es) (h' : KeySorted es')
    (hm : ∀ e, e ∈ es ↔ e ∈ es') : es = es' := by
  induction es generalizing es' with
  | nil =>
    cases es' with
    | nil => rfl
    | cons b _ => exact absurd ((hm b).2 (List.mem_cons_self ..)) (by simp)
  | cons a rest ih =>
    cases es' with
    | nil => exact absurd ((hm a).1 (List.mem_cons_self ..)) (by simp)
    | cons b rest' =>
      have ha := List.pairwise_cons.1 h
      have hb := List.pairwise_cons.1 h'
      have hab : a = b := by
        rcases List.mem_cons.1 ((hm a).1 (List.mem_cons_self ..)) with e | h₁
        · exact e
        · rcases List.mem_cons.1 ((hm b).2 (List.mem_cons_self ..)) with e | h₂
          · exact e.symm
          · exact absurd (String.lt_trans (hb.1 _ h₁) (ha.1 _ h₂)) (String.lt_irrefl _)
      subst hab
      congr 1
      refine ih ha.2 hb.2 fun e => ⟨fun he => ?_, fun he => ?_⟩
      · rcases List.mem_cons.1 ((hm e).1 (List.mem_cons_of_mem _ he)) with rfl | h₁
        · exact absurd (ha.1 _ he) (String.lt_irrefl _)
        · exact h₁
      · rcases List.mem_cons.1 ((hm e).2 (List.mem_cons_of_mem _ he)) with rfl | h₁
        · exact absurd (hb.1 _ he) (String.lt_irrefl _)
        · exact h₁

/-- Two maps that answer every key alike are equal. -/
theorem ext_get? {d d' : Dict α} (h : ∀ k, d.get? k = d'.get? k) : d = d' := by
  refine entries_inj (eq_of_keySorted d.sorted d'.sorted fun e => ?_)
  have hd : ∀ d : Dict α, e ∈ d.entries ↔ d.get? e.1 = some e.2 := fun _ => get?_eq_some_iff.symm
  rw [hd, hd, h]

end Dict

end Toolchain
