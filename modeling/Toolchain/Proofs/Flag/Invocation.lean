import Toolchain.Proofs.Compiler.Record
import Toolchain.Proofs.Flag.Grouping

/-!
# The words of an invocation

The flags of a record pass through atoms, a flag set and the choice of a role before they
are words again. What arrives at a role is what was written for its categories, in category
order: grouping a text into atoms and leaving out empty categories cannot be seen there.

  * `FlagValue.words` — the words of a value as it is written.
  * `Record.words` — the words that a record has for a category.

## Main statements

  * `arguments_atoms` — the atoms of a value have the words of the value.
  * `forRole_eq` — the atoms for a role, category by category.
  * `invocation_words` — the words of an invocation are those of the record.
-/

namespace Toolchain

/-! ## Words and atoms -/

/-- The words of a value as it is written: none where there is no value, those of a text, and
those of each element of a list. -/
def FlagValue.words : Option FlagValue → List String
  | none => []
  | some (.text s) => wordsOf s
  | some (.list elements) => elements.flatMap wordsOf

/-- The words that a record has for a category; none if it does not name the category. -/
def Record.words (r : Record) (c : Category) : List String :=
  match r.flags.get? c.name with
  | none => []
  | some value => FlagValue.words value

/-- The atoms of a value have the words of the value. -/
theorem arguments_atoms (value : Option FlagValue) :
    arguments (FlagValue.atoms value) = FlagValue.words value := by
  match value with
  | none => rfl
  | some (.text s) => exact (grouping_tokenizeFlags s).words
  | some (.list _) => rfl

/-! ## The atoms for a role -/

namespace FlagSet

/-- Leaving out what gives nothing makes no difference to what all give together. -/
theorem flatMap_filter_of_nil {α β : Type} {p : α → Bool} {f : α → List β}
    (h : ∀ a, p a = false → f a = []) (l : List α) : (l.filter p).flatMap f = l.flatMap f := by
  induction l with
  | nil => rfl
  | cons a l ih =>
    cases hp : p a with
    | true => rw [List.filter_cons_of_pos hp, List.flatMap_cons, List.flatMap_cons, ih]
    | false =>
      rw [List.filter_cons_of_neg (by simp [hp]), List.flatMap_cons, h a hp, ih]
      rfl

/-- A role receives the atoms of the categories that apply to it, in category order. -/
theorem forRole_eq {fs : FlagSet} (h : fs.Normal) (r : Role) :
    fs.forRole r = (Category.all.filter (·.appliesTo r)).flatMap fs.get := by
  -- the entries are the categories with atoms, and the others have nothing to give
  have hnil : ∀ c, decide (fs.get c ≠ []) = false → fs.get c = [] := by
    intro c hc
    simpa using hc
  have hswap : (Category.all.filter (fs.get · ≠ [])).filter (·.appliesTo r) =
      (Category.all.filter (·.appliesTo r)).filter (fs.get · ≠ []) := by
    rw [List.filter_filter, List.filter_filter]
    exact List.filter_congr fun c _ => Bool.and_comm ..
  unfold forRole
  rw [entries_eq h, List.filter_map, List.flatMap_map]
  show ((Category.all.filter (fs.get · ≠ [])).filter (·.appliesTo r)).flatMap fs.get = _
  rw [hswap, flatMap_filter_of_nil hnil]

end FlagSet

theorem arguments_flatMap {α : Type} (l : List α) (f : α → List String) :
    arguments (l.flatMap f) = l.flatMap fun a => arguments (f a) := by
  unfold arguments
  rw [List.flatMap_assoc]

/-! ## Invocations -/

namespace Compiler

/-- The flags of a compiler that a record makes have, for each category, the words of the
record. -/
theorem arguments_get_of_record {r : Record} {c : Compiler} (h : ofRecord r = .ok c)
    (category : Category) : arguments (c.flags.get category) = r.words category := by
  obtain ⟨spec, flags, -, -, hflags, -, rfl⟩ := ofRecord_eq_ok.1 h
  show arguments (flags.get category) = r.words category
  rw [FlagSet.get_ofConfig hflags, arguments_atoms, Record.words]
  cases r.flags.get? category.name with
  | none => rfl
  | some value => rfl

/-- An invocation of a role receives exactly the words that the record has for the categories
of this role, category after category, in the order in which they are written. -/
theorem invocation_words {r : Record} {c : Compiler} (h : ofRecord r = .ok c) (role : Role) :
    c.invocationFlags role =
      ([Category.cflags, .cxxflags, .fflags, .cppflags, .ldflags, .ldlibs].filter
        (·.appliesTo role)).flatMap r.words := by
  calc c.invocationFlags role
      = arguments ((Category.all.filter (·.appliesTo role)).flatMap c.flags.get) := by
        rw [invocationFlags, FlagSet.forRole_eq (recordable_ofRecord h).flags]
    _ = (Category.all.filter (·.appliesTo role)).flatMap fun category =>
          arguments (c.flags.get category) := arguments_flatMap _ _
    _ = (Category.all.filter (·.appliesTo role)).flatMap r.words :=
        List.flatMap_congr fun category _ => arguments_get_of_record h category

/-- A text that begins with a value and has all sorts of blanks, a null, the flags of another
language, and a list whose elements have several words or none. -/
theorem invocation_words_mixed :
    let r : Record :=
      { spec := "gcc@13.2.0", operatingSystem := "ubuntu22.04"
        flags := .ofList [("cflags", some (.text "x\t-I  /opt\n-O2 a b ")),
          ("cppflags", none), ("fflags", some (.text "-ffree-form")),
          ("ldlibs", some (.list ["-lm -lc", " ", "", "dl"]))] }
    let c : Compiler :=
      { new ⟨"gcc", ⟨"13.2.0", [13, 2, 0]⟩⟩ "ubuntu22.04" with
        flags := ⟨[(.cflags, ["x", "-I /opt", "-O2 a b"]), (.fflags, ["-ffree-form"]),
          (.ldlibs, ["-lm -lc", " ", "", "dl"])]⟩ }
    ofRecord r = .ok c ∧
      c.invocationFlags .cc = ["x", "-I", "/opt", "-O2", "a", "b", "-lm", "-lc", "dl"] :=
  have h : ofRecord _ = .ok _ := rfl
  ⟨h, (invocation_words h .cc).trans (by decide +kernel)⟩

end Compiler

end Toolchain
