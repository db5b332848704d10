import Toolchain.Environment.Variables
import Toolchain.Proofs.Text.Words

/-!
# Entries of a path variable

A value is taken apart at its colons, and joining its entries gives it back to the letter:
empty entries and slashes at the ends of others stay where they are. So an entry without a
colon is added by writing it and a colon before or behind the value. An entry with a colon
cannot be joined; what was there before is lost.

  * `entriesOf` — the entries that a variable has; one that is not set has none.
  * `spared` — what a new entry leaves of the others.

## Main statements

  * `joined_pathEntries` — taking apart and joining gives the value back.
  * `withEntry_front`, `withEntry_back` — how an entry without a colon is added.
  * `pathEntries_withEntry` — the entries afterwards, whatever the entry is.
  * `spared_both_eq` — when entries at both ends leave all others.
-/

namespace Toolchain

/-! ## Taking apart and joining -/

theorem pathEntries_ne_nil (value : String) : pathEntries value ≠ [] := by
  intro h
  have hpieces := List.map_eq_nil_iff.1 h
  exact Text.pieces_ne_nil _ _ hpieces

theorem not_mem_of_mem_pathEntries {value entry : String} (h : entry ∈ pathEntries value) :
    ':' ∉ entry.toList := by
  obtain ⟨piece, hpiece, rfl⟩ := List.mem_map.1 h
  intro hcolon
  rw [String.toList_ofList] at hcolon
  have := Text.not_mem_of_mem_pieces hpiece ':' hcolon
  simp at this

theorem map_toList_pathEntries (value : String) :
    (pathEntries value).map String.toList = Text.pieces (· == ':') value.toList := by
  simp [pathEntries, piecesOf, Function.comp_def]

/-- Taking a value apart and joining its entries gives it back. -/
theorem joined_pathEntries (value : String) : joined ":" (pathEntries value) = value := by
  rw [← String.toList_inj, toList_joined, map_toList_pathEntries]
  exact Text.joinWith_pieces ':' value.toList

/-- A colon divides a value. -/
theorem pathEntries_append (v w : String) :
    pathEntries (v ++ ":" ++ w) = pathEntries v ++ pathEntries w := by
  have hlist : (v ++ ":" ++ w).toList = v.toList ++ ':' :: w.toList := by
    simp [String.toList_append]
  unfold pathEntries piecesOf
  rw [hlist, Text.pieces_append_cons (by decide), List.map_append]

theorem joined_concat {sep : String} {ws : List String} (hne : ws ≠ []) (w : String) :
    joined sep (ws ++ [w]) = joined sep ws ++ sep ++ w := by
  have hmap : ws.map String.toList ≠ [] := by simpa using hne
  rw [← String.toList_inj, toList_joined, List.map_append, List.map_singleton,
    Text.joinWith_concat _ hmap]
  simp [String.toList_append, toList_joined]

/-! ## Adding an entry -/

theorem PathEnd.mem_add {place : PathEnd} {e entry : String} {entries : List String} :
    e ∈ place.add entry entries ↔ e = entry ∨ e ∈ entries := by
  cases place with
  | front => exact List.mem_cons
  | back => simp [PathEnd.add, or_comm]

/-- The entries of a value are joined with one more if this one has no colon. -/
theorem joinEntries?_add {place : PathEnd} {entry : String} (h : ':' ∉ entry.toList)
    (old : Option String) :
    joinEntries? (place.add entry ((old.map pathEntries).getD [])) =
      some (joined ":" (place.add entry ((old.map pathEntries).getD []))) := by
  unfold joinEntries?
  rw [if_pos]
  intro e he
  rcases PathEnd.mem_add.1 he with rfl | he
  · exact h
  · cases old with
    | none => cases he
    | some value => exact not_mem_of_mem_pathEntries he

@[simp] theorem withEntry_none (place : PathEnd) (entry : String) :
    withEntry place entry none = entry := by
  have hadd : place.add entry [] = [entry] := by cases place <;> rfl
  show (joinEntries? (place.add entry [])).getD entry = entry
  rw [hadd]
  unfold joinEntries?
  split
  · rfl
  · rfl

/-- An entry with a colon takes the place of all others. -/
theorem withEntry_of_colon {entry : String} (h : ':' ∈ entry.toList) (place : PathEnd)
    (old : Option String) : withEntry place entry old = entry := by
  unfold withEntry joinEntries?
  rw [if_neg]
  · rfl
  · intro hall
    exact hall entry (PathEnd.mem_add.2 (.inl rfl)) h

/-- An entry without a colon is written before the value as it is. -/
theorem withEntry_front {entry : String} (h : ':' ∉ entry.toList) (value : String) :
    withEntry .front entry (some value) = entry ++ ":" ++ value := by
  unfold withEntry
  rw [joinEntries?_add h]
  show joined ":" (entry :: pathEntries value) = _
  -- `joined` looks at the second entry, which there always is
  obtain ⟨first, rest, hentries⟩ := List.exists_cons_of_ne_nil (pathEntries_ne_nil value)
  have hjoined := joined_pathEntries value
  rw [hentries] at hjoined ⊢
  show entry ++ ":" ++ joined ":" (first :: rest) = _
  rw [hjoined]

/-- An entry without a colon is written behind the value as it is. -/
theorem withEntry_back {entry : String} (h : ':' ∉ entry.toList) (value : String) :
    withEntry .back entry (some value) = value ++ ":" ++ entry := by
  unfold withEntry
  rw [joinEntries?_add h]
  show joined ":" (pathEntries value ++ [entry]) = _
  rw [joined_concat (pathEntries_ne_nil value), joined_pathEntries]

/-! ## The entries afterwards -/

/-- The entries that a variable has. -/
def entriesOf : Option String → List String
  | none => []
  | some value => pathEntries value

/-- What is left of other entries when an entry is added, if there is one to add. -/
def spared : Option String → List String → List String
  | none, others => others
  | some entry, others => if ':' ∈ entry.toList then [] else others

@[simp] theorem spared_nil (given? : Option String) : spared given? [] = [] := by
  cases given? with
  | none => rfl
  | some entry => exact ite_self []

/-- All other entries are left unless the new one has a colon. -/
theorem spared_eq_self {given? : Option String} {others : List String} :
    spared given? others = others ↔
      ∀ entry, given? = some entry → ':' ∈ entry.toList → others = [] := by
  cases given? with
  | none => simp [spared]
  | some entry =>
    by_cases hcolon : ':' ∈ entry.toList
    · simp [spared, hcolon, eq_comm]
    · simp [spared, hcolon]

theorem spared_sublist (given? : Option String) (others : List String) :
    List.Sublist (spared given? others) others := by
  cases given? with
  | none => exact List.Sublist.refl others
  | some entry =>
    show List.Sublist (if ':' ∈ entry.toList then [] else others) others
    split
    · exact List.nil_sublist others
    · exact List.Sublist.refl others

/-- Entries stand before or behind others. -/
def PathEnd.join : PathEnd → List String → List String → List String
  | front, new, others => new ++ others
  | back, new, others => others ++ new

@[simp] theorem PathEnd.join_nil (place : PathEnd) (new : List String) :
    place.join new [] = new := by
  cases place with
  | front => exact List.append_nil new
  | back => rfl

/-- The entries after one was added: its own, and the others unless it has a colon. -/
theorem pathEntries_withEntry (place : PathEnd) (entry : String) (old : Option String) :
    pathEntries (withEntry place entry old) =
      place.join (pathEntries entry) (spared (some entry) (entriesOf old)) := by
  cases old with
  | none => simp [entriesOf]
  | some value =>
    by_cases hcolon : ':' ∈ entry.toList
    · rw [withEntry_of_colon hcolon, spared, if_pos hcolon, PathEnd.join_nil]
    · rw [spared, if_neg hcolon]
      cases place with
      | front =>
        rw [withEntry_front hcolon, pathEntries_append]
        rfl
      | back =>
        rw [withEntry_back hcolon, pathEntries_append]
        rfl

/-- A variable without entries is one that is not set. -/
theorem entriesOf_eq_nil {value : Option String} : entriesOf value = [] ↔ value = none := by
  cases value with
  | none => simp [entriesOf]
  | some value => simp [entriesOf, pathEntries_ne_nil]

/-- An entry in front and then one at the back leave all entries where they were exactly if
neither one with a colon comes to a variable that is set by then. -/
theorem spared_both_eq {front? back? value : Option String} :
    spared back? (entriesOf front? ++ spared front? (entriesOf value)) =
        entriesOf front? ++ entriesOf value ↔
      (∀ entry, front? = some entry → ':' ∈ entry.toList → value = none) ∧
        ∀ entry, back? = some entry → ':' ∈ entry.toList → front? = none ∧ value = none := by
  constructor
  · intro hall
    -- nothing is ever added, so if all entries are there at the end none was lost before
    have hsub : List.Sublist (entriesOf front? ++ entriesOf value)
        (entriesOf front? ++ spared front? (entriesOf value)) := by
      rw [← hall]
      exact spared_sublist back? _
    have hvalue : spared front? (entriesOf value) = entriesOf value := by
      have hlength := ((List.append_sublist_append_left _).1 hsub).length_le
      exact (spared_sublist front? _).eq_of_length_le hlength
    rw [hvalue] at hall
    refine ⟨?_, ?_⟩
    · intro entry hentry hcolon
      exact entriesOf_eq_nil.1 (spared_eq_self.1 hvalue entry hentry hcolon)
    · intro entry hentry hcolon
      have hnil := spared_eq_self.1 hall entry hentry hcolon
      obtain ⟨hfront, hnone⟩ := List.append_eq_nil_iff.1 hnil
      exact ⟨entriesOf_eq_nil.1 hfront, entriesOf_eq_nil.1 hnone⟩
  · intro hkept
    obtain ⟨hfront, hback⟩ := hkept
    have hvalue : spared front? (entriesOf value) = entriesOf value := by
      apply spared_eq_self.2
      intro entry hentry hcolon
      exact entriesOf_eq_nil.2 (hfront entry hentry hcolon)
    rw [hvalue]
    apply spared_eq_self.2
    intro entry hentry hcolon
    obtain ⟨hnone, hnone'⟩ := hback entry hentry hcolon
    rw [hnone, hnone']
    rfl

end Toolchain
