import Toolchain.Environment.ModuleScript
import Toolchain.Proofs.Environment.Difference
import Toolchain.Proofs.Text.Marks

/-!
# What a module script prints

A script that loads or unloads a module prints two dumps, each behind a marker that NUL ends.
The dumps are found by looking for the markers. Names hold no `=` and neither does a marker, so
in a dump a marker can only stand at the end of a value, in front of the NUL that ends the entry.
There the second marker is taken for the one that divides the dumps.

  * `printedDumps` — what the script prints.

## Main statements

  * `mark_infix_write_iff` — where a marker stands in a dump.
  * `dumps_recovered_iff` — when the two dumps are found, and what is reported then.
-/

namespace Toolchain

namespace Dump

/-! ## Marks in dumps -/

variable {m : List Char}

/-- A mark without `=` at the end of an entry stands at the end of its value. -/
theorem suffix_entryChars_iff {e : String × String} (heq : '=' ∉ m) :
    m <:+ entryChars e ↔ m <:+ e.2.toList := by
  have hvalue : e.2.toList <:+ entryChars e := ⟨e.1.toList ++ ['='], by simp [entryChars]⟩
  constructor
  · intro h
    by_cases hle : m.length ≤ e.2.toList.length
    · exact List.suffix_of_suffix_length_le h hvalue hle
    · -- a longer one would hold the sign in front of the value
      have hsign : '=' :: e.2.toList <:+ entryChars e := ⟨e.1.toList, rfl⟩
      have hmem := List.suffix_of_suffix_length_le hsign h (by rw [List.length_cons]; omega)
      exact absurd (hmem.subset List.mem_cons_self) heq
  · exact fun h => h.trans hvalue

/-- In a dump a mark stands where a value ends with it. -/
theorem mark_infix_write_iff (hnul : nul ∉ m) (heq : '=' ∉ m) {es : List (String × String)}
    (h : ∀ e ∈ es, nul ∉ entryChars e) :
    m ++ [nul] <:+: (write es).toList ↔ ∃ e ∈ es, m <:+ e.2.toList := by
  rw [toList_write]
  induction es with
  | nil => simp
  | cons e rest ih =>
    rw [List.flatMap_cons, List.append_assoc, List.singleton_append,
      Text.mark_infix_iff hnul (h e List.mem_cons_self), suffix_entryChars_iff heq,
      ih fun x hx => h x (List.mem_cons_of_mem _ hx)]
    simp

end Dump

namespace ModuleScript

open Dump

/-! ## The two dumps -/

/-- What a script prints that loads or unloads a module, if something is printed before. -/
def printedDumps (lead before after : String) : String :=
  lead ++ (beforeMarker ++ "\x00" ++ (before ++ (afterMarker ++ "\x00" ++ after)))

/-- Behind the first marker the dumps are divided at the second one. -/
theorem splitDumps_printedDumps {lead : String}
    (hlead : ¬beforeMarker.toList ++ [nul] <:+: lead.toList) (before after : String) :
    splitDumps (printedDumps lead before after) = some (before, after) ↔
      ¬afterMarker.toList ++ [nul] <:+: before.toList := by
  have hprinted : (printedDumps lead before after).toList = lead.toList ++
      (beforeMarker.toList ++ [nul] ++ (before.toList ++
        (afterMarker.toList ++ [nul] ++ after.toList))) := by
    simp [printedDumps, nul]
  unfold splitDumps
  rw [hprinted, (Text.cutAround_mark_iff (by decide)).2 hlead,
    ← Text.cutAround_mark_iff (b := after.toList) (by decide)]
  dsimp only
  constructor
  · intro h
    obtain ⟨⟨x, y⟩, hxy, heq⟩ := Option.map_eq_some_iff.1 h
    cases heq
    rw [String.toList_ofList, String.toList_ofList] at hxy ⊢
    exact hxy
  · intro h
    rw [h, Option.map_some, String.ofList_toList, String.ofList_toList]

/-- A loader reports the difference of the dumps that its script printed, if they are found. -/
theorem shellLoader_of_run {σ : Type} {shell : String} {runner : Runner σ} {verb : ModuleVerb}
    (hverb : verb ≠ .display) {name printed errors before after : String} {env : Environment}
    {s s' : σ}
    (hrun : runner.run ⟨⟨shell⟩, ["-c", script verb name], none⟩ env s =
      (.ok ⟨some 0, printed, errors⟩, s'))
    (hdumps : splitDumps printed = some (before, after)) :
    shellLoader shell runner verb name env s =
      (.ok { output := errors, changes := difference before after }, s') := by
  unfold shellLoader
  dsimp only
  rw [hrun]
  cases verb with
  | display => exact absurd rfl hverb
  | load => simp [decode, CommandOutput.succeeded, hdumps]
  | unload => simp [decode, CommandOutput.succeeded, hdumps]

/-- The two dumps are found exactly if no value of the first one ends with the second marker.
Then a loader reports the difference of the two environments, whatever else the values hold, in
whatever order the variables are listed, and whatever was printed before the first marker. -/
theorem dumps_recovered_iff {before after : Environment} (hbefore : before.Settable)
    (hafter : after.Settable) {dump dump' lead : String} (hdump : Lists before dump)
    (hdump' : Lists after dump') (hlead : ¬beforeMarker.toList ++ [nul] <:+: lead.toList) :
    (splitDumps (printedDumps lead dump dump') = some (dump, dump') ↔
      ∀ e ∈ before.toList, ¬afterMarker.toList <:+ e.2.toList) ∧
    ((∀ e ∈ before.toList, ¬afterMarker.toList <:+ e.2.toList) →
      ∀ {σ : Type} (shell : String) (runner : Runner σ) (verb : ModuleVerb) (name : String)
        (env : Environment) (s s' : σ) (errors : String), verb ≠ .display →
        runner.run ⟨⟨shell⟩, ["-c", script verb name], none⟩ env s =
          (.ok ⟨some 0, printedDumps lead dump dump', errors⟩, s') →
        shellLoader shell runner verb name env s =
          (.ok { output := errors, changes := changes (counted before) (counted after) }, s')) := by
  have hfound : splitDumps (printedDumps lead dump dump') = some (dump, dump') ↔
      ∀ e ∈ before.toList, ¬afterMarker.toList <:+ e.2.toList := by
    obtain ⟨es, hperm, rfl⟩ := hdump
    have hentries : ∀ e ∈ es, nul ∉ entryChars e := fun e he =>
      have hsettable := hbefore e (hperm.mem_iff.1 he)
      nul_notMem_entryChars hsettable.1 hsettable.2
    rw [splitDumps_printedDumps hlead,
      mark_infix_write_iff (by decide) (by decide) hentries]
    simp only [hperm.mem_iff, not_exists, not_and]
  refine ⟨hfound, ?_⟩
  intro hvalues σ shell runner verb name env s s' errors hverb hrun
  rw [shellLoader_of_run hverb hrun (hfound.2 hvalues)]
  unfold difference
  rw [read_of_lists hbefore hdump, read_of_lists hafter hdump']

/-- A runner on which every command prints the same and succeeds. -/
def printing (printed errors : String) : Runner Unit :=
  ⟨fun _ _ s => (.ok ⟨some 0, printed, errors⟩, s), fun _ => none⟩

/-- An environment with values that hold the markers, but not at their ends. -/
def withMarkersInside : Environment :=
  Dict.ofList [("A", "__COMPILERKIT_ENV_AFTER__ "), ("B", "1"),
    ("C", "__COMPILERKIT_ENV_BEFORE__")]

/-- There a module that removes a variable is reported to do so. -/
theorem dumps_recovered_inside :
    withMarkersInside.Settable ∧ (Dict.ofList [("A", "")]).Settable ∧
      Lists withMarkersInside (write withMarkersInside.toList) ∧
      Lists (Dict.ofList [("A", "")]) "A=\x00" ∧
      ¬beforeMarker.toList ++ [nul] <:+: "loading __COMPILERKIT_ENV_BEFORE__\n".toList ∧
      shellLoader "bash"
          (printing (printedDumps "loading __COMPILERKIT_ENV_BEFORE__\n"
            (write withMarkersInside.toList) "A=\x00") "done\n")
          .load "gcc" ∅ () =
        (.ok { output := "done\n", changes := [("A", some ""), ("B", none), ("C", none)] }, ()) := by
  have hbefore : withMarkersInside.Settable := by decide +kernel
  have hafter : (Dict.ofList [("A", "")]).Settable := by decide +kernel
  have hdump : Lists withMarkersInside (write withMarkersInside.toList) := ⟨_, .refl _, rfl⟩
  have hdump' : Lists (Dict.ofList [("A", "")]) "A=\x00" := ⟨_, .refl _, rfl⟩
  have hlead : ¬beforeMarker.toList ++ [nul] <:+: "loading __COMPILERKIT_ENV_BEFORE__\n".toList := by
    rw [← Text.occursIn_iff]
    decide +kernel
  have hvalues : ∀ e ∈ withMarkersInside.toList, ¬afterMarker.toList <:+ e.2.toList := by
    decide +kernel
  refine ⟨hbefore, hafter, hdump, hdump', hlead, ?_⟩
  exact (dumps_recovered_iff hbefore hafter hdump hdump' hlead).2 hvalues "bash" _ .load "gcc" ∅
    () () "done\n" (by decide) rfl

/-- An environment with a value that is the second marker. -/
def withMarkerAtEnd : Environment :=
  Dict.ofList [("X", "__COMPILERKIT_ENV_AFTER__"), ("Z", "1")]

/-- There a module that removes `Z` is reported to set it, together with a variable that it left
alone. -/
theorem marker_in_value_misread :
    (withMarkerAtEnd.Settable ∧ (withMarkerAtEnd.erase "Z").Settable) ∧
      Lists withMarkerAtEnd (write withMarkerAtEnd.toList) ∧
      Lists (withMarkerAtEnd.erase "Z") (write (withMarkerAtEnd.erase "Z").toList) ∧
      changes (counted withMarkerAtEnd) (counted (withMarkerAtEnd.erase "Z")) = [("Z", none)] ∧
      shellLoader "bash"
          (printing (printedDumps "" (write withMarkerAtEnd.toList)
            (write (withMarkerAtEnd.erase "Z").toList)) "")
          .load "gcc" ∅ () =
        (.ok { output := "",
               changes := [("X", some "__COMPILERKIT_ENV_AFTER__"), ("Z", some "1")] }, ()) := by
  exact ⟨by decide +kernel, ⟨_, .refl _, rfl⟩, ⟨_, .refl _, rfl⟩, by decide +kernel,
    by decide +kernel⟩

end ModuleScript

end Toolchain
