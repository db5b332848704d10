import Toolchain.Library
import Toolchain.Proofs.Text.Words

/-!
# Names of library files

Which names belong to a library is written here as a grammar (`LibraryName`): the name of the
library with one of four endings, or with `.so` and version numbers. The check of a name agrees
with it.

## Main statements

  * `isDottedNumbers_iff` — numbers with dots between them.
  * `isLibraryFile_iff` — the check accepts the names of the grammar and no others.
-/

namespace Toolchain

/-- A text of at least one digit. -/
def IsNumber (s : String) : Prop := s.toList ≠ [] ∧ ∀ c ∈ s.toList, Text.isDigit c = true

instance (s : String) : Decidable (IsNumber s) :=
  decidable_of_iff (s.toList ≠ [] ∧ s.toList.all Text.isDigit = true) (by simp [IsNumber])

/-- The names of the files of a library. -/
inductive LibraryName (lib : String) : String → Prop
  | shared : LibraryName lib (lib ++ ".so")
  | static : LibraryName lib (lib ++ ".a")
  | dylib : LibraryName lib (lib ++ ".dylib")
  | dll : LibraryName lib (lib ++ ".dll")
  | versioned {numbers : List String} (hne : numbers ≠ []) (h : ∀ n ∈ numbers, IsNumber n) :
      LibraryName lib (lib ++ ".so." ++ joined "." numbers)

namespace Text

theorem isDottedNumbers_iff {s : List Char} :
    isDottedNumbers s = true ↔
      ∃ numbers : List String, numbers ≠ [] ∧ (∀ n ∈ numbers, IsNumber n) ∧
        s = (joined "." numbers).toList := by
  unfold isDottedNumbers
  rw [List.all_eq_true]
  constructor
  · intro h
    refine ⟨(pieces (· == '.') s).map String.ofList, by simpa using pieces_ne_nil _ s, ?_, ?_⟩
    · intro n hn
      obtain ⟨part, hpart, rfl⟩ := List.mem_map.1 hn
      have := h part hpart
      rw [Bool.and_eq_true, List.all_eq_true] at this
      unfold IsNumber
      rw [String.toList_ofList]
      exact ⟨by simpa using this.1, this.2⟩
    · rw [toList_joined, List.map_map]
      have hid : (String.toList ∘ String.ofList) = (id : List Char → List Char) :=
        funext fun w => String.toList_ofList
      rw [hid, List.map_id]
      exact (joinWith_pieces '.' s).symm
  · rintro ⟨numbers, hne, h, rfl⟩ part hpart
    have hparts : pieces (· == '.') (joined "." numbers).toList = numbers.map String.toList := by
      rw [toList_joined]
      refine pieces_joinWith (by decide) (by simpa using hne) fun w hw c hc => ?_
      obtain ⟨n, hn, rfl⟩ := List.mem_map.1 hw
      rw [beq_eq_false_iff_ne]
      rintro rfl
      exact absurd ((h n hn).2 _ hc) (by decide)
    rw [hparts] at hpart
    obtain ⟨n, hn, rfl⟩ := List.mem_map.1 hpart
    rw [Bool.and_eq_true, List.all_eq_true]
    exact ⟨by simpa using (h n hn).1, (h n hn).2⟩

theorem isLibraryEnding_iff {s : List Char} :
    isLibraryEnding s = true ↔
      (s = "so".toList ∨ s = "a".toList ∨ s = "dylib".toList ∨ s = "dll".toList) ∨
        ∃ numbers : List String, numbers ≠ [] ∧ (∀ n ∈ numbers, IsNumber n) ∧
          s = "so.".toList ++ (joined "." numbers).toList := by
  unfold isLibraryEnding
  split
  next h => exact ⟨fun _ => .inl h, fun _ => rfl⟩
  next h =>
    rw [or_iff_right h]
    split
    next version he =>
      rw [isDottedNumbers_iff, dropStart?_eq_some.1 he]
      simp only [List.append_cancel_left_eq]
    next he =>
      refine ⟨fun h => (nomatch h), ?_⟩
      rintro ⟨numbers, -, -, rfl⟩
      rw [dropStart?_eq_some.2 rfl] at he
      cases he

end Text

theorem LibraryName.iff_ending {name lib : String} :
    LibraryName lib name ↔
      ∃ ending, name.toList = lib.toList ++ ['.'] ++ ending ∧
        Text.isLibraryEnding ending = true := by
  simp only [Text.isLibraryEnding_iff]
  constructor
  · intro h
    cases h with
    | shared => exact ⟨_, by simp, .inl (.inl rfl)⟩
    | static => exact ⟨_, by simp, .inl (.inr (.inl rfl))⟩
    | dylib => exact ⟨_, by simp, .inl (.inr (.inr (.inl rfl)))⟩
    | dll => exact ⟨_, by simp, .inl (.inr (.inr (.inr rfl)))⟩
    | versioned hne h => exact ⟨_, by simp, .inr ⟨_, hne, h, rfl⟩⟩
  · rintro ⟨ending, hname, (rfl | rfl | rfl | rfl) | ⟨numbers, hne, h, rfl⟩⟩
    · obtain rfl : name = lib ++ ".so" := String.toList_inj.1 (hname.trans (by simp))
      exact .shared
    · obtain rfl : name = lib ++ ".a" := String.toList_inj.1 (hname.trans (by simp))
      exact .static
    · obtain rfl : name = lib ++ ".dylib" := String.toList_inj.1 (hname.trans (by simp))
      exact .dylib
    · obtain rfl : name = lib ++ ".dll" := String.toList_inj.1 (hname.trans (by simp))
      exact .dll
    · obtain rfl : name = lib ++ ".so." ++ joined "." numbers :=
        String.toList_inj.1 (hname.trans (by simp))
      exact .versioned hne h

/-- The check of a name accepts the names of the grammar and no others. -/
theorem isLibraryFile_iff {name lib : String} :
    isLibraryFile name lib = true ↔ LibraryName lib name := by
  rw [LibraryName.iff_ending]
  unfold isLibraryFile
  split
  next ending he =>
    rw [Text.dropStart?_eq_some.1 he]
    simp
  next he =>
    refine ⟨fun h => (nomatch h), ?_⟩
    rintro ⟨ending, hname, -⟩
    rw [Text.dropStart?_eq_some.2 hname] at he
    cases he

end Toolchain
