import Toolchain.Proofs.Text.Trim
import Toolchain.Spec

/-!
# Canonical specs

A spec that was read is canonical: its name and its version are exactly the parts at which
the reader stops, so that showing it and reading it again gives the same spec. What the text
had beyond them (blanks, the `=` of an exact version, variants) is gone.

## Main statements

  * `read_eq_ok` — what a text has to be like to be read.
  * `canonical_of_read` — specs that were read are canonical.
  * `read_text` — canonical specs are read back from how they are shown.
-/

namespace Toolchain

/-! ## Versions -/

theorem Version.parse?_eq_some {text : String} {v : Version} :
    Version.parse? text = some v ↔
      Text.leadingNumbers (Text.trim text.toList) ≠ [] ∧
        v = ⟨trimmed text, Text.leadingNumbers (Text.trim text.toList)⟩ := by
  unfold Version.parse? trimmed
  cases h : Text.leadingNumbers (Text.trim text.toList) with
  | nil => simp [h]
  | cons n ns => simp [h, eq_comm]

namespace Spec

open Text

/-! ## Characters -/

theorem not_blank_of_isNameChar {c : Char} (h : isNameChar c = true) : isBlank c = false := by
  cases hblank : isBlank c with
  | false => rfl
  | true =>
    have hcode : c.toNat ∈ blankCodes := List.contains_iff_mem.1 hblank
    have hnone : ∀ n ∈ blankCodes, isNameChar (Char.ofNat n) = false := by decide
    rw [← Char.ofNat_toNat c, hnone _ hcode] at h
    cases h

theorem not_blank_of_not_endsVersion {c : Char} (h : endsVersion c = false) :
    isBlank c = false := by
  unfold endsVersion at h
  simp only [Bool.or_eq_false_iff] at h
  exact h.1.1.1.1

theorem not_endsVersion_of_mem {s : List Char} {c : Char} (h : c ∈ versionText s) :
    endsVersion c = false := by
  simpa using List.mem_takeWhile_imp h

@[simp] theorem trim_versionText (s : List Char) : trim (versionText s) = versionText s :=
  trim_eq_self_of_not_blank fun _ hc => not_blank_of_not_endsVersion (not_endsVersion_of_mem hc)

/-- The text of a version is what is left of it when it is looked for again. -/
@[simp] theorem versionText_versionText (s : List Char) :
    versionText (versionText s) = versionText s := by
  have hdrop : (versionText s).dropWhile (· == '=') = versionText s := by
    apply dropWhile_eq_self_of_head
    intro c hc
    -- the first character comes from what stands behind all `=`
    have hprefix : versionText s <+: s.dropWhile (· == '=') := List.takeWhile_prefix _
    obtain ⟨rest, hrest⟩ := hprefix
    refine head_dropWhile (p := (· == '=')) (s := s) c ?_
    rw [← hrest, List.head?_append, hc]
    rfl
  rw [versionText, hdrop]
  exact List.takeWhile_idem

/-! ## Reading -/

/-- What a text has to be like to be read as a spec, and what is read. -/
theorem read_eq_ok {text : String} {s : Spec} :
    read text = .ok s ↔
      ∃ before after v, cutAt '@' (trim text.toList) = some (before, after) ∧
        trim before ≠ [] ∧ (trim before).all isNameChar = true ∧ versionText after ≠ [] ∧
        Version.parse? (String.ofList (versionText after)) = some v ∧
        s = ⟨String.ofList (trim before), v⟩ := by
  constructor
  · intro h
    simp only [read] at h
    split at h
    · cases h
    next before after hcut =>
    split at h
    · cases h
    next hname =>
    split at h
    · cases h
    next hchars =>
    split at h
    · cases h
    next hversion =>
    split at h
    · cases h
    next v hparse =>
    rw [Bool.not_eq_false] at hchars
    exact ⟨before, after, v, hcut, hname, hchars, hversion, hparse, (Except.ok.inj h).symm⟩
  · rintro ⟨before, after, v, hcut, hname, hchars, hversion, hparse, rfl⟩
    simp only [read, hcut]
    rw [if_neg hname, if_neg (by rw [hchars]; decide), if_neg hversion, hparse]

theorem parse_eq_ok {text : String} {s : Spec} : parse text = .ok s ↔ read text = .ok s := by
  unfold parse
  cases read text with
  | ok s' => simp
  | error fault => simp

/-- A spec that is nothing but what the reader looks for. -/
structure Canonical (s : Spec) : Prop where
  name_ne : s.name ≠ ""
  name_chars : ∀ c ∈ s.name.toList, isNameChar c = true
  version_text : versionText s.version.raw.toList = s.version.raw.toList
  version_parse : Version.parse? s.version.raw = some s.version

/-- Specs that were read are canonical. -/
theorem canonical_of_read {text : String} {s : Spec} (h : read text = .ok s) : s.Canonical := by
  obtain ⟨before, after, v, -, hname, hchars, -, hparse, rfl⟩ := read_eq_ok.1 h
  obtain ⟨hnumbers, rfl⟩ := Version.parse?_eq_some.1 hparse
  have hraw : trimmed (String.ofList (versionText after)) = String.ofList (versionText after) := by
    rw [trimmed, String.toList_ofList, trim_versionText]
  constructor
  · simpa using hname
  · simpa using hchars
  · show versionText (trimmed _).toList = (trimmed _).toList
    rw [hraw, String.toList_ofList, versionText_versionText]
  · rw [← hparse]
    show Version.parse? (trimmed _) = Version.parse? _
    rw [hraw]

/-- Nothing in how a canonical spec is shown is blank. -/
theorem Canonical.not_blank {s : Spec} (h : s.Canonical) :
    ∀ c ∈ s.name.toList ++ '@' :: s.version.raw.toList, isBlank c = false := by
  intro c hc
  rcases List.mem_append.1 hc with hname | hversion
  · exact not_blank_of_isNameChar (h.name_chars c hname)
  · rcases List.mem_cons.1 hversion with rfl | hraw
    · decide
    · rw [← h.version_text] at hraw
      exact not_blank_of_not_endsVersion (not_endsVersion_of_mem hraw)

theorem Canonical.trim_name {s : Spec} (h : s.Canonical) : trim s.name.toList = s.name.toList :=
  trim_eq_self_of_not_blank fun c hc => not_blank_of_isNameChar (h.name_chars c hc)

/-- A name holds no mark. -/
theorem Canonical.mark_not_mem {s : Spec} (h : s.Canonical) : '@' ∉ s.name.toList := by
  intro hc
  have hchar := h.name_chars '@' hc
  revert hchar
  decide

/-- Canonical specs are read back from how they are shown. -/
theorem read_text {s : Spec} (h : s.Canonical) : read s.text = .ok s := by
  have htext : s.text.toList = s.name.toList ++ '@' :: s.version.raw.toList := by
    simp [text, String.toList_append]
  have hname := h.trim_name
  have hnumbers := (Version.parse?_eq_some.1 h.version_parse).1
  refine read_eq_ok.2 ⟨s.name.toList, s.version.raw.toList, s.version, ?_, ?_, ?_, ?_, ?_, ?_⟩
  · rw [htext, trim_eq_self_of_not_blank h.not_blank]
    exact cutAt_append h.mark_not_mem _
  · rw [hname]
    simpa using h.name_ne
  · rw [hname]
    simpa using h.name_chars
  · -- an empty version would have no number
    rw [h.version_text]
    rintro hempty
    rw [hempty] at hnumbers
    exact hnumbers rfl
  · rw [h.version_text, String.ofList_toList]
    exact h.version_parse
  · rw [hname, String.ofList_toList]

end Spec

end Toolchain
