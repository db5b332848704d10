import Toolchain.Host
import Toolchain.Proofs.Text.Trim
import Toolchain.Proofs.Text.Words

/-!
# Tags from release files

A value in a release file is trimmed before the quotes around it are dropped, and not after.
So the tag of a file in which nothing is quoted has no blanks at its ends; what stands inside
quotes is taken as it is.

## Main statements

  * `releaseTag?_eq_some` — a tag is the value of `ID` with that of `VERSION_ID` behind it.
  * `trimmed_releaseTag?` — without quotes a tag has no blanks at its ends.
-/

namespace Toolchain

namespace Host

open Text

/-! ## Assignments -/

/-- Without quotes in a line its value has no blanks at its ends. -/
theorem trimmed_assignment? {line : List Char} (hdouble : '"' ∉ line) (hsingle : '\'' ∉ line)
    {e : String × String} (h : assignment? line = some e) : Trimmed isBlank e.2.toList := by
  unfold assignment? at h
  split at h
  · cases h
  · next key value hcut =>
    obtain ⟨hline, -⟩ := cutAt_eq_some hcut
    have hmem : ∀ c ∈ trim value, c ∈ line := fun c hc => by
      rw [hline]
      exact List.mem_append_right key (List.mem_cons_of_mem _ (mem_of_mem_trimBoth hc))
    have hout : trimBoth (· == '"') (trim value) = trim value :=
      trimBoth_of_notMem fun hc => hdouble (hmem _ hc)
    have hin : trimBoth (· == '\'') (trim value) = trim value :=
      trimBoth_of_notMem fun hc => hsingle (hmem _ hc)
    obtain rfl := Option.some.inj h
    show Trimmed isBlank (String.ofList _).toList
    rw [String.toList_ofList, hout, hin]
    exact trimmed_trimBoth isBlank value

theorem mem_of_lastValue? {key v : String} {es : List (String × String)}
    (h : lastValue? key es = some v) : ∃ e ∈ es, e.2 = v := by
  obtain ⟨e, he, hv⟩ := Option.map_eq_some_iff.1 h
  exact ⟨e, (List.mem_filter.1 (List.mem_of_getLast? he)).1, hv⟩

/-! ## Tags -/

/-- A tag is the value of `ID`, which is not empty, with that of `VERSION_ID` behind it. -/
theorem releaseTag?_eq_some {contents tag : String} :
    releaseTag? contents = some tag ↔
      ∃ id, lastValue? "ID" ((lines contents.toList).filterMap assignment?) = some id ∧
        id ≠ "" ∧ tag = id ++
          (lastValue? "VERSION_ID" ((lines contents.toList).filterMap assignment?)).getD "" := by
  simp only [releaseTag?]
  split
  · next h => simp [h]
  · next id h =>
    rw [h]
    by_cases hid : id = ""
    · simp [hid]
    · simp [hid, eq_comm]

/-- There is no tag if `ID` has no value, or an empty one. -/
theorem releaseTag?_eq_none {contents : String} :
    releaseTag? contents = none ↔
      lastValue? "ID" ((lines contents.toList).filterMap assignment?) = none ∨
        lastValue? "ID" ((lines contents.toList).filterMap assignment?) = some "" := by
  simp only [releaseTag?]
  split
  · next h => simp [h]
  · next id h => simp [h]

/-- Without quotes in a release file its tag has no blanks at its ends. -/
theorem trimmed_releaseTag? {contents tag : String} (hdouble : '"' ∉ contents.toList)
    (hsingle : '\'' ∉ contents.toList) (h : releaseTag? contents = some tag) :
    Trimmed isBlank tag.toList := by
  have hvalue : ∀ e ∈ (lines contents.toList).filterMap assignment?,
      Trimmed isBlank e.2.toList := by
    intro e he
    obtain ⟨line, hline, hassign⟩ := List.mem_filterMap.1 he
    exact trimmed_assignment? (fun hc => hdouble (mem_of_mem_lines hline hc))
      (fun hc => hsingle (mem_of_mem_lines hline hc)) hassign
  obtain ⟨id, hid, -, rfl⟩ := releaseTag?_eq_some.1 h
  obtain ⟨e, he, rfl⟩ := mem_of_lastValue? hid
  rw [String.toList_append]
  refine (hvalue e he).append ?_
  cases hversion : lastValue? "VERSION_ID" ((lines contents.toList).filterMap assignment?) with
  | none => exact trimmed_nil isBlank
  | some version =>
    obtain ⟨e', he', rfl⟩ := mem_of_lastValue? hversion
    exact hvalue e' he'

end Host

end Toolchain
