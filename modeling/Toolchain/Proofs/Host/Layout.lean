import Toolchain.Proofs.Host.Release
import Toolchain.Proofs.Text.Runs

/-!
# The layout of release files

A release file is written here line by line (`ReleaseLine`) and read back. A line that assigns
`ID` or `VERSION_ID` may have any blanks around the key and around the value, and the value may
be bare or in quotes; every other line has no `=`, or another key. Whatever the order of the
lines, and however often the two keys are assigned, the tag is made of the values that they have
in the end.

  * `TagKey`, `Assignment`, `ReleaseLine` — lines as they are written.
  * `HasFinally` — the value of a key after all lines: that of the last one that assigns it.

## Main statements

  * `assignment?_text` — key and value of a line are read back.
  * `lastValue?_releaseText` — so are the values that the keys have in the end.
  * `tag_of_final_values` — the tag of a release file.
-/

namespace Toolchain.Host

open Text

/-! ## Lines as they are written -/

/-- The keys of which the tag is made. -/
inductive TagKey
  | id
  | versionId
  deriving DecidableEq, Repr

/-- The name of a key. -/
def TagKey.name : TagKey → String
  | id => "ID"
  | versionId => "VERSION_ID"

/-- What stands around a value. -/
inductive ValueQuote
  | bare
  | double
  | single
  deriving DecidableEq, Repr

/-- The mark on either side of a value. -/
def ValueQuote.mark : ValueQuote → String
  | bare => ""
  | double => "\""
  | single => "'"

/-- A line that assigns a key, with the blanks in it. -/
structure Assignment where
  indent : String := ""
  key : TagKey
  afterKey : String := ""
  beforeValue : String := ""
  quote : ValueQuote := .bare
  value : String
  tail : String := ""
  deriving DecidableEq, Repr

/-- A value without quotes and line feeds that is not surrounded by blanks. -/
structure ReleaseValue (value : String) : Prop where
  ends : Trimmed isBlank value.toList
  noDouble : '"' ∉ value.toList
  noSingle : '\'' ∉ value.toList
  noFeed : '\n' ∉ value.toList

instance (value : String) : Decidable (ReleaseValue value) :=
  decidable_of_iff (Trimmed isBlank value.toList ∧ '"' ∉ value.toList ∧
      '\'' ∉ value.toList ∧ '\n' ∉ value.toList)
    ⟨fun ⟨hends, hdouble, hsingle, hfeed⟩ => ⟨hends, hdouble, hsingle, hfeed⟩,
    fun ⟨hends, hdouble, hsingle, hfeed⟩ => ⟨hends, hdouble, hsingle, hfeed⟩⟩

namespace Assignment

/-- The side of the line before the `=`. -/
def left (a : Assignment) : String := a.indent ++ a.key.name ++ a.afterKey

/-- The side of the line behind the `=`. -/
def right (a : Assignment) : String :=
  a.beforeValue ++ (a.quote.mark ++ a.value ++ a.quote.mark) ++ a.tail

/-- The line as it is written, without its end. -/
def text (a : Assignment) : String := a.left ++ "=" ++ a.right

/-- The blanks are blanks, and the value is one. -/
structure Proper (a : Assignment) : Prop where
  indent : LineBlanks a.indent
  afterKey : LineBlanks a.afterKey
  beforeValue : LineBlanks a.beforeValue
  value : ReleaseValue a.value
  tail : LineBlanks a.tail

instance (a : Assignment) : Decidable a.Proper :=
  decidable_of_iff (LineBlanks a.indent ∧ LineBlanks a.afterKey ∧ LineBlanks a.beforeValue ∧
      ReleaseValue a.value ∧ LineBlanks a.tail)
    ⟨fun ⟨hi, hk, hb, hv, ht⟩ => ⟨hi, hk, hb, hv, ht⟩,
    fun ⟨hi, hk, hb, hv, ht⟩ => ⟨hi, hk, hb, hv, ht⟩⟩

end Assignment

/-- A line that assigns neither of the keys: it has no `=`, or what stands before the first one
is not their name, with or without blanks around it. -/
def SaysOther (line : List Char) : Prop :=
  '=' ∉ line ∨ ∃ before after, line = before ++ '=' :: after ∧ '=' ∉ before ∧
    ∀ key : TagKey, trim before ≠ key.name.toList

/-- Such a line is one that is read as an assignment of another key, or as none. -/
theorem saysOther_iff {line : List Char} :
    SaysOther line ↔ ∀ e ∈ assignment? line, ∀ key : TagKey, e.1 ≠ key.name := by
  unfold assignment?
  cases hcut : cutAt '=' line with
  | none =>
    constructor
    · intro _ e he
      cases he
    · intro _
      exact .inl (cutAt_eq_none_iff.1 hcut)
  | some sides =>
    obtain ⟨before, after⟩ := sides
    have hsides := cutAt_eq_some_iff.1 hcut
    have hname : ∀ key : TagKey, trim before = key.name.toList ↔
        trimmed (String.ofList before) = key.name := by
      intro key
      rw [← String.toList_inj, trimmed, String.toList_ofList, String.toList_ofList]
    constructor
    · rintro (hnone | ⟨before', after', hline, hbefore', hkey⟩)
      · exact absurd (by rw [hsides.1]; simp) hnone
      · have hcut' := cutAt_eq_some_iff.2 ⟨hline, hbefore'⟩
        rw [hcut] at hcut'
        cases hcut'
        intro e he key
        obtain rfl := Option.some.inj he
        exact fun hk => hkey key ((hname key).2 hk)
    · intro h
      exact .inr ⟨before, after, hsides.1, hsides.2, fun key hk => h _ rfl key ((hname key).1 hk)⟩

instance (line : List Char) : Decidable (SaysOther line) :=
  decidable_of_iff (∀ e ∈ assignment? line, e.1 ≠ TagKey.id.name ∧ e.1 ≠ TagKey.versionId.name) (by
    rw [saysOther_iff]
    constructor
    · intro h e he key
      cases key with
      | id => exact (h e he).1
      | versionId => exact (h e he).2
    · intro h e he
      exact ⟨h e he .id, h e he .versionId⟩)

/-- A line of a release file. -/
inductive ReleaseLine
  | assigns (a : Assignment)
  | other (text : String)
  deriving DecidableEq, Repr

namespace ReleaseLine

/-- A line as it is written, without its end. -/
def text : ReleaseLine → String
  | assigns a => a.text
  | other text => text

/-- An assignment of one of the keys, or a line that assigns neither. -/
def Proper : ReleaseLine → Prop
  | assigns a => a.Proper
  | other text => '\n' ∉ text.toList ∧ SaysOther text.toList

instance : (l : ReleaseLine) → Decidable l.Proper
  | assigns a => inferInstanceAs (Decidable a.Proper)
  | other text => inferInstanceAs (Decidable ('\n' ∉ text.toList ∧ SaysOther text.toList))

end ReleaseLine

/-- Lines with line feeds between them. A carriage return before a line feed is a blank at the
end of its line, and a line feed at the end has an empty line behind it. -/
def releaseText (lines : List ReleaseLine) : String := joined "\n" (lines.map ReleaseLine.text)

/-- The value that a key has after all lines, if it has one: that of the last line that assigns
it. -/
inductive HasFinally (key : TagKey) : List ReleaseLine → Option String → Prop where
  | unassigned {lines : List ReleaseLine}
      (h : ∀ a, ReleaseLine.assigns a ∈ lines → a.key ≠ key) : HasFinally key lines none
  | assigned {before after : List ReleaseLine} {a : Assignment} (hkey : a.key = key)
      (hlast : ∀ b, ReleaseLine.assigns b ∈ after → b.key ≠ key) :
      HasFinally key (before ++ .assigns a :: after) (some a.value)

/-! ## One line -/

theorem TagKey.name_inj {k key : TagKey} : k.name = key.name ↔ k = key := by
  cases k <;> cases key <;> decide

namespace ReleaseValue

variable {value : String}

/-- Quotes around a value are dropped, and nothing else. -/
theorem unquoted (h : ReleaseValue value) (q : ValueQuote) :
    trimBoth (· == '\'') (trimBoth (· == '"')
      (q.mark.toList ++ (value.toList ++ q.mark.toList))) = value.toList := by
  have hends : ∀ d, d ∉ value.toList → Trimmed (· == d) value.toList := fun _ hd =>
    trimBoth_eq_self_iff.1 (trimBoth_of_notMem hd)
  cases q with
  | bare =>
    show trimBoth (· == '\'') (trimBoth (· == '"') ([] ++ (value.toList ++ []))) = _
    rw [List.nil_append, List.append_nil, trimBoth_of_notMem h.noDouble,
      trimBoth_of_notMem h.noSingle]
  | double =>
    have hmark : ∀ c ∈ ['"'], (c == '"') = true := by simp
    show trimBoth (· == '\'') (trimBoth (· == '"') (['"'] ++ (value.toList ++ ['"']))) = _
    rw [trimBoth_padded hmark (hends '"' h.noDouble) hmark, trimBoth_of_notMem h.noSingle]
  | single =>
    have hmark : ∀ c ∈ ['\''], (c == '\'') = true := by simp
    have hdouble : '"' ∉ ['\''] ++ (value.toList ++ ['\'']) := by
      simpa using h.noDouble
    show trimBoth (· == '\'') (trimBoth (· == '"') (['\''] ++ (value.toList ++ ['\'']))) = _
    rw [trimBoth_of_notMem hdouble, trimBoth_padded hmark (hends '\'' h.noSingle) hmark]

/-- A value has no blanks at its ends, nor have the quotes around it. -/
theorem trimmed_quoted (h : ReleaseValue value) (q : ValueQuote) :
    Trimmed isBlank (q.mark.toList ++ (value.toList ++ q.mark.toList)) := by
  have hmark : Trimmed isBlank q.mark.toList := by cases q <;> decide
  exact hmark.append (h.ends.append hmark)

end ReleaseValue

namespace Assignment

variable {a : Assignment}

/-- The key is found whatever blanks are around it. -/
theorem trimmed_left (h : a.Proper) : trimmed a.left = a.key.name := by
  have hkey : Trimmed isBlank a.key.name.toList := by cases a.key <;> decide
  have htrim : trim a.left.toList = a.key.name.toList := by
    unfold left
    rw [String.toList_append, String.toList_append, List.append_assoc]
    exact trimBoth_padded h.indent.blank hkey h.afterKey.blank
  rw [trimmed, htrim, String.ofList_toList]

/-- The value is found whatever blanks are around it, in quotes or bare. -/
theorem trim_right (h : a.Proper) :
    trim a.right.toList = a.quote.mark.toList ++ (a.value.toList ++ a.quote.mark.toList) := by
  have hright : a.right.toList = a.beforeValue.toList ++
      (a.quote.mark.toList ++ (a.value.toList ++ a.quote.mark.toList) ++ a.tail.toList) := by
    simp [right]
  rw [hright]
  exact trimBoth_padded h.beforeValue.blank (h.value.trimmed_quoted a.quote) h.tail.blank

/-- No `=` stands before the one of the assignment. -/
theorem mark_notMem_left (h : a.Proper) : '=' ∉ a.left.toList := by
  have hgap : ∀ {gap : String}, LineBlanks gap → '=' ∉ gap.toList := by
    intro gap hgap hc
    have hblank := hgap.blank '=' hc
    cases hblank
  have hkey : '=' ∉ a.key.name.toList := by cases a.key <;> decide
  unfold left
  simp [hgap h.indent, hkey, hgap h.afterKey]

/-- Key and value of a line are read back. -/
theorem assignment?_text (h : a.Proper) :
    assignment? a.text.toList = some (a.key.name, a.value) := by
  have hcut : cutAt '=' a.text.toList = some (a.left.toList, a.right.toList) := by
    have htext : a.text.toList = a.left.toList ++ '=' :: a.right.toList := by
      simp [text, String.toList_append]
    rw [htext]
    exact cutAt_append (mark_notMem_left h) _
  unfold assignment?
  rw [hcut]
  dsimp only
  rw [trim_right h, h.value.unquoted, String.ofList_toList, String.ofList_toList, trimmed_left h]

/-- An assignment goes over no line feed. -/
theorem newline_notMem_text (h : a.Proper) : '\n' ∉ a.text.toList := by
  have hkey : '\n' ∉ a.key.name.toList := by cases a.key <;> decide
  have hmark : '\n' ∉ a.quote.mark.toList := by cases a.quote <;> decide
  unfold text left right
  simp [h.indent.newline_notMem, hkey, h.afterKey.newline_notMem, h.beforeValue.newline_notMem,
    hmark, h.value.noFeed, h.tail.newline_notMem]

end Assignment

namespace ReleaseLine

/-- The value that a line gives to a key. -/
def valueOf? (key : TagKey) : ReleaseLine → Option String
  | assigns a => if a.key = key then some a.value else none
  | other _ => none

/-- What a line assigns to one of the keys is read back. -/
theorem filter_assignment?_text {l : ReleaseLine} (h : l.Proper) (key : TagKey) :
    (assignment? l.text.toList).filter (fun e => e.1 = key.name) =
      (l.valueOf? key).map fun v => (key.name, v) := by
  cases l with
  | assigns a =>
    show (assignment? a.text.toList).filter _ = _
    rw [Assignment.assignment?_text h]
    by_cases hkey : a.key = key
    · simp [valueOf?, hkey]
    · have hname : a.key.name ≠ key.name := fun hname => hkey (TagKey.name_inj.1 hname)
      simp [valueOf?, hkey, hname]
  | other text =>
    show (assignment? text.toList).filter _ = none
    rw [Option.filter_eq_none_iff]
    intro e he
    simpa using saysOther_iff.1 h.2 e he key

/-- A line goes over no line feed. -/
theorem newline_notMem_text {l : ReleaseLine} (h : l.Proper) : '\n' ∉ l.text.toList := by
  cases l with
  | assigns a => exact Assignment.newline_notMem_text h
  | other text => exact h.1

end ReleaseLine

/-! ## Many lines -/

/-- The carriage return at the end of a line makes no difference to what it assigns. -/
theorem assignment?_dropReturn (line : List Char) :
    assignment? (dropReturn line) = assignment? line := by
  unfold assignment?
  cases hcut : cutAt '=' line with
  | none =>
    have hnone : '=' ∉ dropReturn line := fun hc =>
      cutAt_eq_none_iff.1 hcut (mem_of_mem_dropReturn hc)
    rw [cutAt_eq_none_iff.2 hnone]
  | some sides =>
    obtain ⟨before, after⟩ := sides
    obtain ⟨rfl, hbefore⟩ := cutAt_eq_some hcut
    have hmark : dropReturn ('=' :: after) = '=' :: dropReturn after := by
      cases after with
      | nil => rfl
      | cons c cs => exact dropReturn_append (List.cons_ne_nil c cs) ['=']
    rw [dropReturn_append (List.cons_ne_nil '=' after), hmark, cutAt_append hbefore]
    dsimp only
    rw [trim_dropReturn]

/-- The lines that were written are the pieces of the text between its line feeds. -/
theorem pieces_releaseText {lines : List ReleaseLine} (h : ∀ l ∈ lines, l.Proper)
    (hne : lines ≠ []) :
    pieces (· == '\n') (releaseText lines).toList = lines.map fun l => l.text.toList := by
  have hfeed : "\n".toList = ['\n'] := rfl
  unfold releaseText
  rw [toList_joined, hfeed, List.map_map]
  apply pieces_joinWith (by decide)
  · simpa using hne
  · intro w hw c hc
    obtain ⟨l, hl, rfl⟩ := List.mem_map.1 hw
    rw [beq_eq_false_iff_ne]
    rintro rfl
    exact ReleaseLine.newline_notMem_text (h l hl) hc

/-- A release file assigns what its lines assign. -/
theorem filterMap_assignment?_releaseText {lines : List ReleaseLine}
    (h : ∀ l ∈ lines, l.Proper) :
    (Text.lines (releaseText lines).toList).filterMap assignment? =
      lines.filterMap fun l => assignment? l.text.toList := by
  have hreturn : ∀ line, (assignment? (dropReturn line)).toList = (assignment? line).toList :=
    fun line => congrArg Option.toList (assignment?_dropReturn line)
  rw [List.filterMap_eq_flatMap_toList, flatMap_lines rfl hreturn,
    ← List.filterMap_eq_flatMap_toList]
  by_cases hne : lines = []
  · rw [hne]
    rfl
  · rw [pieces_releaseText h hne, List.filterMap_map]
    rfl

/-- The value that a key has in the end is read back. -/
theorem lastValue?_releaseText {lines : List ReleaseLine} (h : ∀ l ∈ lines, l.Proper)
    (key : TagKey) :
    lastValue? key.name ((Text.lines (releaseText lines).toList).filterMap assignment?) =
      (lines.filterMap (ReleaseLine.valueOf? key)).getLast? := by
  have hvalues : ∀ l ∈ lines, (assignment? l.text.toList).filter (fun e => e.1 = key.name) =
      (l.valueOf? key).map fun v => (key.name, v) := fun l hl =>
    ReleaseLine.filter_assignment?_text (h l hl) key
  rw [filterMap_assignment?_releaseText h]
  unfold lastValue?
  rw [List.filter_filterMap, List.filterMap_congr hvalues, ← List.map_filterMap, List.getLast?_map,
    Option.map_map]
  exact Option.map_id'

/-! ## Values in the end -/

theorem ReleaseLine.valueOf?_eq_none {key : TagKey} {l : ReleaseLine} :
    l.valueOf? key = none ↔ ∀ a, l = .assigns a → a.key ≠ key := by
  cases l with
  | assigns a => simp [valueOf?]
  | other text => simp [valueOf?]

theorem ReleaseLine.valueOf?_eq_some {key : TagKey} {l : ReleaseLine} {value : String} :
    l.valueOf? key = some value ↔ ∃ a, l = .assigns a ∧ a.key = key ∧ a.value = value := by
  cases l with
  | assigns a => simp [valueOf?]
  | other text => simp [valueOf?]

/-- No line assigns a key. -/
theorem filterMap_valueOf?_eq_nil {key : TagKey} {lines : List ReleaseLine} :
    lines.filterMap (ReleaseLine.valueOf? key) = [] ↔
      ∀ a, ReleaseLine.assigns a ∈ lines → a.key ≠ key := by
  simp only [List.filterMap_eq_nil_iff, ReleaseLine.valueOf?_eq_none]
  constructor
  · intro h a ha
    exact h _ ha a rfl
  · rintro h _ hl a rfl
    exact h a hl

/-- A key has the value of the last line that assigns it. -/
theorem hasFinally_iff {key : TagKey} {lines : List ReleaseLine} {value : Option String} :
    HasFinally key lines value ↔
      (lines.filterMap (ReleaseLine.valueOf? key)).getLast? = value := by
  constructor
  · intro h
    cases h with
    | unassigned hnone =>
      rw [filterMap_valueOf?_eq_nil.2 hnone]
      rfl
    | @assigned before after a hkey hlast =>
      have hvalue : (ReleaseLine.assigns a).valueOf? key = some a.value :=
        ReleaseLine.valueOf?_eq_some.2 ⟨a, rfl, hkey, rfl⟩
      rw [List.filterMap_append, List.filterMap_cons_some hvalue,
        filterMap_valueOf?_eq_nil.2 hlast, List.getLast?_concat]
  · rintro rfl
    cases hvalues : (lines.filterMap (ReleaseLine.valueOf? key)).getLast? with
    | none => exact .unassigned (filterMap_valueOf?_eq_nil.1 (List.getLast?_eq_none_iff.1 hvalues))
    | some value =>
      -- the last value stands on a line behind which none is assigned
      obtain ⟨others, hothers⟩ := List.getLast?_eq_some_iff.1 hvalues
      obtain ⟨before, rest, rfl, -, hrest⟩ := List.filterMap_eq_append_iff.1 hothers
      obtain ⟨idle, l, after, rfl, -, hl, hafter⟩ := List.filterMap_eq_cons_iff.1 hrest
      obtain ⟨a, rfl, hkey, rfl⟩ := ReleaseLine.valueOf?_eq_some.1 hl
      rw [← List.append_assoc]
      exact .assigned hkey (filterMap_valueOf?_eq_nil.1 hafter)

/-! ## The tag -/

/-- The tag of a release file is the last value of `ID` with the last value of `VERSION_ID`
behind it, if there is one. There is no tag exactly if `ID` is never assigned, or if its last
value is empty. The order of the lines, the blanks and the quotes make no difference, nor do
lines that say something else. -/
theorem tag_of_final_values {lines : List ReleaseLine} (h : ∀ l ∈ lines, l.Proper) :
    (∀ tag, releaseTag? (releaseText lines) = some tag ↔
      ∃ id version, HasFinally .id lines (some id) ∧ id ≠ "" ∧
        HasFinally .versionId lines version ∧ tag = id ++ version.getD "") ∧
    (releaseTag? (releaseText lines) = none ↔
      HasFinally .id lines none ∨ HasFinally .id lines (some "")) := by
  have hread : ∀ (key : TagKey) (value : Option String),
      lastValue? key.name ((Text.lines (releaseText lines).toList).filterMap assignment?) = value ↔
        HasFinally key lines value := by
    intro key value
    rw [lastValue?_releaseText h, hasFinally_iff]
  constructor
  · intro tag
    rw [releaseTag?_eq_some]
    constructor
    · rintro ⟨id, hid, hne, rfl⟩
      exact ⟨id, _, (hread .id _).1 hid, hne, (hread .versionId _).1 rfl, rfl⟩
    · rintro ⟨id, version, hid, hne, hversion, rfl⟩
      refine ⟨id, (hread .id _).2 hid, hne, ?_⟩
      rw [← (hread .versionId _).2 hversion]
      rfl
  · rw [releaseTag?_eq_none, ← hread, ← hread]
    rfl

/-- Keys that are assigned twice, in all three ways and with blanks, between lines that only look
like assignments of them. -/
def debianLines : List ReleaseLine :=
  [.assigns ⟨"", .id, "", "", .bare, "debian", ""⟩, .other "# ID=comment\r",
    .assigns ⟨"", .versionId, "", "", .double, "11 (old)", "\r"⟩, .other "ID_LIKE=\"debian\"",
    .other "VERSION='12'", .assigns ⟨"\t", .versionId, " ", "\u00a0", .single, "12=a", "  "⟩,
    .other "ID", .assigns ⟨"", .id, " ", " ", .double, "deb", ""⟩, .other ""]

/-- The last values count, whatever stands between them. -/
theorem tag_of_final_values_debian :
    (∀ l ∈ debianLines, l.Proper) ∧ releaseTag? (releaseText debianLines) = some "deb12=a" := by
  have h : ∀ l ∈ debianLines, l.Proper := by decide +kernel
  have hid : HasFinally .id debianLines (some "deb") := hasFinally_iff.2 (by decide)
  have hversion : HasFinally .versionId debianLines (some "12=a") := hasFinally_iff.2 (by decide)
  exact ⟨h, ((tag_of_final_values h).1 "deb12=a").2 ⟨"deb", _, hid, by decide, hversion, by decide⟩⟩

end Toolchain.Host
