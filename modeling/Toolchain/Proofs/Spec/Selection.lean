import Toolchain.Proofs.CommandLine.Acting
import Toolchain.Proofs.Compiler.File

/-!
# Selecting compilers by their specs

How a spec is shown stands for the spec: it is read back as the same one, so different specs are
shown differently. A query selects a compiler by its name or by any text that is read as its spec;
it cannot be taken for both, since a name holds no `@`. Asking for a compiler by how it is shown
therefore finds it, or one with the same spec in front of it.

## Main statements

  * `text_inj` — specs are equal if they are shown the same.
  * `selectedBy_iff` — what a query has to be to select a compiler.
  * `CommandLine.select_eq_ok` — the first compiler that a query selects is taken.
  * `displayed_spec_selects` — the laws for specs that were parsed, and for the compilers of a file.
-/

namespace Toolchain

namespace Spec

open Text

variable {c d : Spec}

/-! ## Specs and how they are shown -/

theorem text_inj (hc : c.Canonical) (hd : d.Canonical) : c.text = d.text ↔ c = d := by
  constructor
  · intro h
    have hread := read_text hc
    rw [h, read_text hd] at hread
    exact (Except.ok.inj hread).symm
  · intro h
    rw [h]

theorem canonical_of_parse {text : String} (h : parse text = .ok c) : c.Canonical :=
  canonical_of_read (parse_eq_ok.1 h)

/-! ## Queries -/

/-- A query selects a compiler by its name or by its spec. -/
theorem selectedBy_iff (hc : c.Canonical) {query : String} :
    c.selectedBy query = true ↔ trimmed query = c.name ∨ parse query = .ok c := by
  rw [parse_eq_ok]
  unfold selectedBy
  cases hread : read query with
  | ok other =>
    -- what is read as a spec holds an `@`, so it is no name
    have hname : trimmed query ≠ c.name := by
      intro h
      obtain ⟨before, after, v, hcut, -⟩ := read_eq_ok.1 hread
      have hsplit := (cutAt_eq_some hcut).1
      apply hc.mark_not_mem
      rw [← h, trimmed, String.toList_ofList, hsplit]
      simp
    simp [hname]
  | error fault => simp

theorem selectedBy_name (hc : c.Canonical) : c.selectedBy c.name = true := by
  apply (selectedBy_iff hc).2
  left
  rw [trimmed, hc.trim_name, String.ofList_toList]

/-- How a spec is shown selects this spec and no other one. -/
theorem selectedBy_text (hd : d.Canonical) :
    c.selectedBy d.text = true ↔ c = d := by
  unfold selectedBy
  rw [read_text hd]
  show (d == c) = true ↔ c = d
  rw [beq_iff_eq, eq_comm]

end Spec

/-! ## Compilers -/

namespace CommandLine

/-- The compiler that is taken is the first one that the query selects. -/
theorem select_eq_ok {compilers : List Compiler} {query : String} {console : Console}
    {c : Compiler} :
    ((select compilers query).run console).1 = .ok c ↔
      compilers.find? (·.spec.selectedBy query) = some c := by
  obtain ⟨hanswer, -⟩ := shows_select compilers query console
  rw [hanswer]
  unfold chosen
  cases compilers.find? (·.spec.selectedBy query) with
  | none => simp
  | some first => simp

end CommandLine

namespace Config

/-- The specs of the compilers of a file are canonical. -/
theorem canonical_of_mem {records : List Record} {cs : List Compiler}
    (h : compilers records = .ok cs) {c : Compiler} (hc : c ∈ cs) : c.spec.Canonical := by
  obtain ⟨r, -, hr⟩ := exists_record_of_mem (compilersFrom_eq_ok.1 h) hc
  exact (Compiler.recordable_ofRecord hr).spec

end Config

namespace Spec

/-- A spec that was parsed is parsed again from how it is shown, and no other spec is shown like
it. A query selects it exactly by its name, with or without blanks around, or by a text that is
parsed as this spec; so its name and how it is shown do. For a compiler of a file, asking for it
by how its spec is shown gives the first compiler of the file with this spec. -/
theorem displayed_spec_selects :
    (∀ text c, parse text = .ok c →
      parse c.text = .ok c ∧
      (∀ other d, parse other = .ok d → (c = d ↔ c.text = d.text)) ∧
      (∀ query, c.selectedBy query = true ↔ trimmed query = c.name ∨ parse query = .ok c) ∧
      c.selectedBy c.name = true ∧ c.selectedBy c.text = true) ∧
    (∀ records compilers, Config.compilers records = .ok compilers → ∀ x ∈ compilers,
      ∃ first, compilers.find? (·.spec == x.spec) = some first ∧
        ∀ console, ((CommandLine.select compilers x.spec.text).run console).1 = .ok first) := by
  constructor
  · intro text c h
    have hc := canonical_of_parse h
    refine ⟨parse_eq_ok.2 (read_text hc), ?_, fun query => selectedBy_iff hc, selectedBy_name hc,
      (selectedBy_text hc).2 rfl⟩
    intro other d hd
    exact (text_inj hc (canonical_of_parse hd)).symm
  · intro records compilers h x hx
    have hcanonical : x.spec.Canonical := Config.canonical_of_mem h hx
    -- asking for how the spec is shown is asking for the spec
    have hsame : compilers.find? (·.spec.selectedBy x.spec.text) =
        compilers.find? (·.spec == x.spec) := by
      apply List.find?_congr
      intro y _
      rw [Bool.eq_iff_iff, selectedBy_text hcanonical, beq_iff_eq]
    have hfound : (compilers.find? (·.spec == x.spec)).isSome = true :=
      List.find?_isSome.2 ⟨x, hx, beq_self_eq_true x.spec⟩
    obtain ⟨first, hfirst⟩ := Option.isSome_iff_exists.1 hfound
    refine ⟨first, hfirst, fun console => ?_⟩
    rw [CommandLine.select_eq_ok, hsame]
    exact hfirst

end Spec

end Toolchain
