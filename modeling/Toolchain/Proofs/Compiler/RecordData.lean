import Toolchain.Compiler
import Toolchain.Proofs.Data.Decoding

/-!
# Records as data

A record is written as a table from which fields that are absent or empty are left out, and
decoded with the defaults of the fields that are not there. What is left out is what has this
default, so every record is decoded to what it was. Each kind of record is seen *up to* the
keys that were read so far: the fields of these keys have their values, the others their
defaults.

## Main statements

  * `RolePaths.decode_data`, `Mutation.decode_data`, `FlagValue.decodeAll_data` — the parts of a
    record.
  * `Record.take_entry` — an entry of a record is taken for its own field.
  * `Record.decode_data` — a record.
  * `Compiler.record_read_back` — so is one that is wrapped, and both make the same compiler.
-/

namespace Toolchain

open Decoder

/-! ## Paths -/

namespace RolePaths

/-- The paths of the roles whose keys were seen. -/
def upTo (ps : RolePaths) (seen : List String) : RolePaths where
  cc := if "cc" ∈ seen then ps.cc else none
  cxx := if "cxx" ∈ seen then ps.cxx else none
  f77 := if "f77" ∈ seen then ps.f77 else none
  fc := if "fc" ∈ seen then ps.fc else none

theorem set_upTo (ps : RolePaths) (seen : List String) (r : Role) :
    (ps.upTo seen).set r (ps.get r) = ps.upTo (r.key :: seen) := by
  cases r <;> simp [upTo, set, get, Role.key]

theorem upTo_all {ps : RolePaths} {seen : List String} (h : ∀ r : Role, r.key ∈ seen) :
    ps.upTo seen = ps := by
  have hcc : "cc" ∈ seen := h .cc
  have hcxx : "cxx" ∈ seen := h .cxx
  have hf77 : "f77" ∈ seen := h .f77
  have hfc : "fc" ∈ seen := h .fc
  unfold upTo
  rw [if_pos hcc, if_pos hcxx, if_pos hf77, if_pos hfc]

theorem decode_pathData (p : Option Path) :
    Decoder.optional Decoder.path (Json.value (pathData p)) = .ok p := by
  cases p with
  | none => simp [pathData, Decoder.optional]
  | some p => simp [pathData, Decoder.optional, Decoder.path, Except.map]

theorem decode_data (dialect : Dialect) (ps : RolePaths) :
    shape.decode dialect (Json.value ps.data) = .ok ps := by
  have hkeys : ∀ k, k ∈ (Role.all.map fun r => (r.key, pathData (ps.get r))).map Prod.fst ↔
      k ∈ Role.all.map Role.key := by simp
  have hnodup : ((Role.all.map fun r => (r.key, pathData (ps.get r))).map Prod.fst).Nodup := by
    rw [List.map_map]
    show (Role.all.map Role.key).Nodup
    decide
  obtain ⟨seen, hseen, hdecode⟩ :=
    shape.decode_value dialect ps.upTo (by simp [upTo, shape]) hnodup
      (by
        intro e he seen
        obtain ⟨r, -, rfl⟩ := List.mem_map.1 he
        simp only [shape, Role.ofKey?_key, decode_pathData, Except.map, set_upTo])
  rw [data, hdecode, upTo_all]
  intro r
  rw [hseen, hkeys]
  exact List.mem_map_of_mem (Role.mem_all r)

end RolePaths

/-! ## Flag values -/

namespace FlagValue

theorem value_data (v : Option FlagValue) : Json.value (data v) = data v := by
  cases v with
  | none => exact Json.value_null
  | some v =>
    cases v with
    | text s => exact Json.value_text s
    | list atoms => exact Json.value_texts atoms

theorem decode_data (v : Option FlagValue) : Decoder.optional decode (data v) = .ok v := by
  cases v with
  | none => rfl
  | some v =>
    cases v with
    | text s => rfl
    | list atoms =>
      show (decode (.texts atoms)).map some = _
      unfold decode Data.texts
      dsimp only
      rw [each_text]
      rfl

/-- Flag values of any names are decoded to what they were. -/
theorem decodeAll_data (flags : Dict (Option FlagValue)) :
    decodeAll (Json.value (.table (flags.toList.map fun e => (e.1, data e.2)))) = .ok flags := by
  rw [Json.value_dict value_data]
  exact mapping_written decode_data flags

end FlagValue

/-! ## Mutations -/

namespace Mutation

/-- The parts of a mutation whose keys were seen. -/
def upTo (m : Mutation) (seen : List String) : Mutation where
  set := if "set" ∈ seen then m.set else ∅
  unset := if "unset" ∈ seen then m.unset else []
  prependPath := if "prepend_path" ∈ seen then m.prependPath else ∅
  appendPath := if "append_path" ∈ seen then m.appendPath else ∅

theorem decodeUnset_texts (names : List String) : decodeUnset (.texts names) = .ok names := by
  unfold decodeUnset Data.texts
  dsimp only
  rw [each_text]

theorem decode_data (dialect : Dialect) (m : Mutation) :
    decode dialect (Json.value m.data) = .ok m := by
  have hnodup : ([("set", Data.textTable m.set), ("unset", .texts m.unset),
      ("prepend_path", .textTable m.prependPath),
      ("append_path", .textTable m.appendPath)].map Prod.fst).Nodup := by
    show ["set", "unset", "prepend_path", "append_path"].Nodup
    decide
  obtain ⟨seen, hseen, hdecode⟩ :=
    shape.decode_value dialect m.upTo (by simp [upTo, shape]) hnodup
      (by
        intro e he seen
        simp only [List.mem_cons, List.not_mem_nil, or_false] at he
        rcases he with rfl | rfl | rfl | rfl
        · simp [shape, mapping_textTable, Except.map, upTo]
        · simp [shape, decodeUnset_texts, Except.map, upTo]
        · simp [shape, mapping_textTable, Except.map, upTo]
        · simp [shape, mapping_textTable, Except.map, upTo])
  rw [decode, data, hdecode]
  simp [upTo, hseen]

end Mutation

/-! ## Records -/

namespace Record

/-- The record whose fields of the keys that were seen are read. -/
def upTo (r : Record) (seen : List String) : Draft where
  spec := if "spec" ∈ seen then some r.spec else none
  operatingSystem := if "operating_system" ∈ seen then some r.operatingSystem else none
  rest :=
    { spec := "", operatingSystem := ""
      target := if "target" ∈ seen then r.target else none
      paths := if "paths" ∈ seen then r.paths else {}
      flags := if "flags" ∈ seen then r.flags else ∅
      modules := if "modules" ∈ seen then r.modules else none
      environment := if "environment" ∈ seen then r.environment else none
      extraRpaths := if "extra_rpaths" ∈ seen then r.extraRpaths else []
      implicitRpaths := if "implicit_rpaths" ∈ seen then r.implicitRpaths else none }

theorem mem_field {key : String} {present : Bool} {d : Data} {e : String × Data} :
    e ∈ field key present d ↔ present = true ∧ e = (key, d) := by
  cases present <;> simp [field]

theorem mem_keys_field {key k : String} {present : Bool} {d : Data} :
    k ∈ (field key present d).map Prod.fst ↔ present = true ∧ k = key := by
  cases present <;> simp [field]

theorem keys_field (key : String) (present : Bool) (d : Data) :
    ((field key present d).map Prod.fst).Sublist [key] := by
  cases present
  · exact List.nil_sublist _
  · exact List.Sublist.refl _

/-- The entries of a record are fields of it, in their order. -/
theorem keys_entries_sublist (r : Record) :
    (r.entries.map Prod.fst).Sublist shape.fields := by
  simp only [entries, List.map_append]
  show List.Sublist _ (["spec", "operating_system"] ++ ["target"] ++ ["paths"] ++ ["flags"]
    ++ ["modules"] ++ ["environment"] ++ ["extra_rpaths"] ++ ["implicit_rpaths"])
  repeat' apply List.Sublist.append
  all_goals first | exact keys_field .. | exact List.Sublist.refl _

theorem nodup_keys_entries (r : Record) : (r.entries.map Prod.fst).Nodup := by
  have hfields : shape.fields.Nodup := by decide
  exact hfields.sublist r.keys_entries_sublist

/-- An entry of a record is taken for its own field. -/
theorem take_entry (dialect : Dialect) (r : Record) {e : String × Data} (he : e ∈ r.entries)
    (seen : List String) :
    shape.take dialect (r.upTo seen) e.1 (Json.value e.2) = .ok (r.upTo (e.1 :: seen)) := by
  simp only [entries, List.mem_append, mem_field, List.mem_cons, List.not_mem_nil,
    or_false] at he
  -- one case for each field, in their order; those that may be absent are present here
  rcases he with
    (((((((rfl | rfl) | ⟨h, rfl⟩) | rfl) | ⟨-, rfl⟩) | ⟨h, rfl⟩) | ⟨h, rfl⟩) | ⟨-, rfl⟩) | ⟨h, rfl⟩
  · simp [shape, upTo, Decoder.text, Except.map]
  · simp [shape, upTo, Decoder.text, Except.map]
  · obtain ⟨target, htarget⟩ := Option.isSome_iff_exists.1 h
    simp [shape, takeOptional, upTo, Decoder.optional, Decoder.text, Except.map, htarget]
  · simp [shape, takeOptional, upTo, RolePaths.decode_data, Except.map]
  · simp [shape, takeOptional, upTo, FlagValue.decodeAll_data, Except.map]
  · obtain ⟨modules, hmodules⟩ := Option.isSome_iff_exists.1 h
    have hdecode : Decoder.optional (Decoder.sequence Decoder.text) (.texts modules) =
        .ok (some modules) := by
      show (each text (modules.map .text)).map some = _
      rw [each_text]
      rfl
    simp [shape, takeOptional, upTo, hmodules, hdecode, Except.map]
  · obtain ⟨environment, henvironment⟩ := Option.isSome_iff_exists.1 h
    have hdecode : Decoder.optional (Mutation.decode dialect) (Json.value environment.data) =
        .ok (some environment) := by
      rw [optional_of_ne_null, Mutation.decode_data]
      · rfl
      · simp [Mutation.data, Json.value_table]
    simp [shape, takeOptional, upTo, henvironment, hdecode, Except.map]
  · have hdecode : Decoder.sequence Decoder.path (.texts (r.extraRpaths.map Path.text)) =
        .ok r.extraRpaths := each_path r.extraRpaths
    simp [shape, takeOptional, upTo, hdecode, Except.map]
  · obtain ⟨choice, hchoice⟩ := Option.isSome_iff_exists.1 h
    simp [shape, takeOptional, upTo, Decoder.optional, Decoder.boolean, Except.map, hchoice]

/-- What is left out of a record is what is not given, or empty. -/
theorem upTo_entries (r : Record) {seen : List String}
    (h : ∀ k, k ∈ seen ↔ k ∈ r.entries.map Prod.fst) :
    r.upTo seen = ⟨some r.spec, some r.operatingSystem,
      { r with spec := "", operatingSystem := "" }⟩ := by
  have hmem : ∀ k, k ∈ seen ↔ _ := h
  simp only [entries, List.map_append, List.mem_append, mem_keys_field, List.map_cons,
    List.map_nil, List.mem_cons, List.not_mem_nil, or_false] at hmem
  obtain ⟨spec, operatingSystem, target, paths, flags, modules, environment, extraRpaths,
    implicitRpaths⟩ := r
  -- where a key was not seen, the record has the default of its field
  have htarget : (if "target" ∈ seen then target else none) = target := by
    cases target <;> simp [hmem]
  have hflags : (if "flags" ∈ seen then flags else ∅) = flags := by
    have hempty : "flags" ∉ seen → flags.isEmpty = true := by simp [hmem]
    exact ite_eq_left_iff.2 fun h => (Dict.eq_empty_of_isEmpty (hempty h)).symm
  have hmodules : (if "modules" ∈ seen then modules else none) = modules := by
    cases modules <;> simp [hmem]
  have henvironment : (if "environment" ∈ seen then environment else none) = environment := by
    cases environment <;> simp [hmem]
  have hextra : (if "extra_rpaths" ∈ seen then extraRpaths else []) = extraRpaths := by
    cases extraRpaths <;> simp [hmem]
  have himplicit :
      (if "implicit_rpaths" ∈ seen then implicitRpaths else none) = implicitRpaths := by
    cases implicitRpaths <;> simp [hmem]
  have hspec : "spec" ∈ seen := by simp [hmem]
  have hsystem : "operating_system" ∈ seen := by simp [hmem]
  have hpaths : "paths" ∈ seen := by simp [hmem]
  simp only [upTo, htarget, hflags, hmodules, henvironment, hextra, himplicit, if_pos hspec,
    if_pos hsystem, if_pos hpaths]

/-- A record is decoded to what it was. -/
theorem decode_data (dialect : Dialect) (r : Record) :
    decode dialect (Json.value r.data) = .ok r := by
  obtain ⟨seen, hseen, hdecode⟩ :=
    shape.decode_value dialect r.upTo rfl r.nodup_keys_entries
      (fun e he seen => take_entry dialect r he seen)
  rw [decode, data, hdecode, r.upTo_entries hseen]
  rfl

end Record

namespace Compiler

theorem unwrap_wrapped (key : String) (d : Data) :
    unwrap key (Json.value (.table [(key, d)])) = Json.value d := by
  rw [Json.value_table]
  show unwrap key (.table (Dict.ofList [(key, Json.value d)]).toList) = _
  rw [Dict.toList_ofList (List.pairwise_singleton ..)]
  exact if_pos rfl

/-- A table with another key is no wrapper. -/
theorem unwrap_of_key {key k : String} {entries : List (String × Data)}
    (hk : k ∈ entries.map Prod.fst) (hne : k ≠ key) :
    unwrap key (.table entries) = .table entries := by
  unfold unwrap
  split
  · next k' inner h =>
    cases h
    obtain rfl : k = k' := by simpa using hk
    exact if_neg hne
  · rfl

theorem unwrap_record (r : Record) :
    unwrap "compiler" (Json.value r.data) = Json.value r.data := by
  rw [Record.data, Json.value_table]
  refine unwrap_of_key (k := "spec") ?_ (by decide)
  -- a record has a spec, so it is never taken for a wrapper
  have hspec : ("spec", Json.value (.text r.spec)) ∈
      r.entries.map fun e => (e.1, Json.value e.2) :=
    List.mem_map.2 ⟨("spec", .text r.spec), by simp [Record.entries], rfl⟩
  have hnodup : ((r.entries.map fun e => (e.1, Json.value e.2)).map Prod.fst).Nodup := by
    rw [List.map_map]
    exact r.nodup_keys_entries
  exact List.mem_map.2 ⟨_, (Dict.mem_toList_ofList_iff hnodup).2 hspec, rfl⟩

/-- A record comes back from JSON as it was, and makes the same compiler as itself, also if it
is wrapped. -/
theorem record_read_back (r : Record) :
    Record.decode .json (Json.value r.data) = .ok r ∧
      ofData (Json.value r.data) = ofRecord r ∧
      ofData (Json.value (.table [("compiler", r.data)])) = ofRecord r := by
  have hdecode : Record.decode .json (Json.value r.data) = .ok r := r.decode_data .json
  refine ⟨hdecode, ?_, ?_⟩
  · rw [ofData, unwrap_record, hdecode]
  · rw [ofData, unwrap_wrapped, hdecode]

end Compiler

end Toolchain
