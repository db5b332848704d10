import Toolchain.Environment.Modules
import Toolchain.Proofs.Text.Fields
import Toolchain.Proofs.Text.Trim

/-!
# Conflict lines

A listing declares conflicting modules in lines of two forms, `conflict gcc intel` and
`conflict("gcc", 'intel')`, between lines that say something else. A listing is written here
line by line (`Listing`) and read back: `moduleConflicts` gives the names of its conflict
lines, however these are indented, spaced, quoted and ended, and nothing of the other lines.

  * `DeclaresConflicts` — a line that is read for names.
  * `ListingLine`, `Listing` — lines, and a listing of them, as they are written.

## Main statements

  * `conflictNames_keyword`, `conflictNames_of_not_declares` — what is read from one line.
  * `moduleConflicts_eq` — what is read from a listing, whatever ends its lines.
  * `conflictNames_line` — the names of a line are read back.
  * `conflicts_read_back` — those of a listing are.
-/

namespace Toolchain

namespace Text

/-! ## One line -/

/-- Nothing follows the word `conflict`, or something that cannot be a part of it. -/
def EndsKeyword (rest : List Char) : Prop :=
  ∀ c, rest.head? = some c → c = '(' ∨ isBlank c = true

/-- The text of a line begins with the word `conflict`, and a parenthesis or a blank comes
next. -/
def DeclaresConflicts (line : List Char) : Prop :=
  ∃ c rest, trim line = "conflict".toList ++ c :: rest ∧ (c = '(' ∨ isBlank c = true)

theorem conflictPart?_eq_some {line part : List Char} :
    conflictPart? line = some part ↔
      ∃ c rest, part = c :: rest ∧ trim line = "conflict".toList ++ part ∧
        (c = '(' ∨ isBlank c = true) := by
  unfold conflictPart?
  split
  next c rest hstart =>
    have hline := dropStart?_eq_some.1 hstart
    constructor
    · intro h
      split at h
      next hc =>
        obtain rfl := Option.some.inj h
        exact ⟨c, rest, rfl, hline, hc⟩
      next => cases h
    · rintro ⟨c', rest', rfl, hline', hc⟩
      obtain ⟨rfl, rfl⟩ := List.cons.inj (List.append_cancel_left (hline.symm.trans hline'))
      exact if_pos hc
  next hstart =>
    constructor
    · intro h
      cases h
    · rintro ⟨c, rest, rfl, hline, -⟩
      exact absurd (dropStart?_eq_some.2 hline) (hstart c rest)

instance (line : List Char) : Decidable (DeclaresConflicts line) :=
  decidable_of_iff ((conflictPart? line).isSome = true) (by
    rw [Option.isSome_iff_exists]
    constructor
    · rintro ⟨part, h⟩
      obtain ⟨c, rest, rfl, hline, hc⟩ := conflictPart?_eq_some.1 h
      exact ⟨c, rest, hline, hc⟩
    · rintro ⟨c, rest, hline, hc⟩
      exact ⟨c :: rest, conflictPart?_eq_some.2 ⟨c, rest, rfl, hline, hc⟩⟩)

/-- The names of a line depend on its text alone, not on the blanks around it. -/
theorem conflictNames_congr {line line' : List Char} (h : trim line = trim line') :
    conflictNames line = conflictNames line' := by
  unfold conflictNames conflictPart?
  rw [h]

theorem conflictNames_of_part {line part : List Char} (h : conflictPart? line = some part) :
    conflictNames line = fields endsConflictName part := by
  unfold conflictNames
  rw [h]
  rfl

/-- A line that declares no conflicts has no names. -/
theorem conflictNames_of_not_declares {line : List Char} (h : ¬DeclaresConflicts line) :
    conflictNames line = [] := by
  have hnone : conflictPart? line = none := by
    cases hpart : conflictPart? line with
    | none => rfl
    | some part =>
      obtain ⟨c, rest, rfl, hline, hc⟩ := conflictPart?_eq_some.1 hpart
      exact absurd ⟨c, rest, hline, hc⟩ h
  unfold conflictNames
  rw [hnone]

theorem endsConflictName_of_blank {c : Char} (h : isBlank c = true) :
    endsConflictName c = true := by
  simp [endsConflictName, h]

/-- After the word, the names are the fields of what follows it. -/
theorem conflictNames_keyword {indent rest : List Char}
    (hindent : ∀ c ∈ indent, isBlank c = true) (hrest : EndsKeyword rest) :
    conflictNames (indent ++ ("conflict".toList ++ rest)) = fields endsConflictName rest := by
  -- the blanks at the end of the line are trimmed away, and they separate no names
  obtain ⟨core, tail, rfl, htail, hlast⟩ := exists_trimmed_end isBlank rest
  have htrimmed : Trimmed isBlank ("conflict".toList ++ core) := by
    refine ⟨fun c hc => ?_, fun c hc => ?_⟩
    · obtain rfl : 'c' = c := Option.some.inj hc
      rfl
    · rw [List.getLast?_append, Option.or_eq_some_iff] at hc
      rcases hc with hc | ⟨-, hc⟩
      · exact hlast c hc
      · obtain rfl : 't' = c := Option.some.inj hc
        rfl
  have htrim : trim (indent ++ ("conflict".toList ++ (core ++ tail))) =
      "conflict".toList ++ core := by
    rw [← List.append_assoc "conflict".toList]
    exact trimBoth_padded hindent htrimmed htail
  have hnames : fields endsConflictName (core ++ tail) = fields endsConflictName core :=
    fields_append_separators (fun c hc => endsConflictName_of_blank (htail c hc)) core
  rw [hnames]
  cases core with
  | nil =>
    refine conflictNames_of_not_declares ?_
    rintro ⟨c, part, hpart, -⟩
    rw [htrim] at hpart
    cases List.append_cancel_left hpart
  | cons c cs =>
    have hc : c = '(' ∨ isBlank c = true := hrest c rfl
    exact conflictNames_of_part (conflictPart?_eq_some.2 ⟨c, cs, rfl, htrim, hc⟩)

end Text

open Text

/-- The names of a listing are those of its pieces between line feeds. -/
theorem moduleConflicts_eq (listing : String) :
    moduleConflicts listing =
      ((pieces (· == '\n') listing.toList).flatMap conflictNames).map String.ofList := by
  have hreturn : ∀ line, conflictNames (dropReturn line) = conflictNames line := fun line =>
    conflictNames_congr (trim_dropReturn line)
  unfold moduleConflicts
  rw [flatMap_lines rfl hreturn]

/-! ## Lines as they are written -/

/-- A name that can stand on a conflict line. -/
def ConflictName (name : String) : Prop :=
  name ≠ "" ∧ ∀ c ∈ name.toList, isBlank c = false ∧ c ∉ ['(', ')', ',', '"', '\'']

instance (name : String) : Decidable (ConflictName name) :=
  have : Decidable (∀ c ∈ name.toList, isBlank c = false ∧ c ∉ ['(', ')', ',', '"', '\'']) :=
    List.decidableBAll _ _
  inferInstanceAs (Decidable (_ ∧ _))

/-- The quotes around a name. -/
inductive NameQuote
  | single
  | double
  deriving DecidableEq, Repr

/-- The character of a quote. -/
def NameQuote.char : NameQuote → Char
  | single => '\''
  | double => '"'

/-- A name in quotes, with the blanks before and after it. -/
structure QuotedName where
  before : String := ""
  quote : NameQuote
  name : String
  after : String := ""
  deriving DecidableEq, Repr

namespace QuotedName

/-- A quoted name as it is written. -/
def chars (q : QuotedName) : List Char :=
  q.before.toList ++ q.quote.char :: (q.name.toList ++ q.quote.char :: q.after.toList)

/-- The blanks are blanks and the name is one. -/
structure Proper (q : QuotedName) : Prop where
  before : LineBlanks q.before
  name : ConflictName q.name
  after : LineBlanks q.after

instance (q : QuotedName) : Decidable q.Proper :=
  decidable_of_iff (LineBlanks q.before ∧ ConflictName q.name ∧ LineBlanks q.after)
    ⟨fun ⟨hb, hn, ha⟩ => ⟨hb, hn, ha⟩, fun ⟨hb, hn, ha⟩ => ⟨hb, hn, ha⟩⟩

end QuotedName

/-- A line of a listing. -/
inductive ListingLine
  /-- `conflict` and names, each after blanks. -/
  | spaced (indent : String) (names : List (String × String)) (tail : String)
  /-- `conflict(`, names in quotes with commas between them, and `)`. -/
  | called (indent : String) (names : List QuotedName) (tail : String)
  /-- A line that says something else. -/
  | other (text : String)
  deriving DecidableEq, Repr

namespace ListingLine

/-- What follows the word of a conflict line. -/
def part : ListingLine → List Char
  | spaced _ names tail => names.flatMap (fun n => n.1.toList ++ n.2.toList) ++ tail.toList
  | called _ names tail =>
    '(' :: (joinWith [','] (names.map QuotedName.chars) ++ ')' :: tail.toList)
  | other _ => []

/-- A line as it is written, without its end. -/
def chars (l : ListingLine) : List Char :=
  match l with
  | spaced indent _ _ => indent.toList ++ ("conflict".toList ++ l.part)
  | called indent _ _ => indent.toList ++ ("conflict".toList ++ l.part)
  | other text => text.toList

/-- The names of a line. -/
def names : ListingLine → List String
  | spaced _ names _ => names.map Prod.snd
  | called _ names _ => names.map QuotedName.name
  | other _ => []

/-- On a conflict line everything but names and quotes is blank, and names without quotes have
blanks before them; any other line is one that declares no conflicts. -/
def Proper : ListingLine → Prop
  | spaced indent names tail =>
    LineBlanks indent ∧ LineBlanks tail ∧
      ∀ n ∈ names, (LineBlanks n.1 ∧ n.1 ≠ "") ∧ ConflictName n.2
  | called indent names tail => LineBlanks indent ∧ LineBlanks tail ∧ ∀ q ∈ names, q.Proper
  | other text => '\n' ∉ text.toList ∧ ¬DeclaresConflicts text.toList

instance : (l : ListingLine) → Decidable l.Proper
  | spaced indent names tail => inferInstanceAs (Decidable (LineBlanks indent ∧ LineBlanks tail ∧
      ∀ n ∈ names, (LineBlanks n.1 ∧ n.1 ≠ "") ∧ ConflictName n.2))
  | called indent names tail =>
    inferInstanceAs (Decidable (LineBlanks indent ∧ LineBlanks tail ∧ ∀ q ∈ names, q.Proper))
  | other text =>
    inferInstanceAs (Decidable ('\n' ∉ text.toList ∧ ¬DeclaresConflicts text.toList))

end ListingLine

/-! ## Names of a line -/

theorem LineBlanks.separator {gap : String} (h : LineBlanks gap) :
    ∀ c ∈ gap.toList, endsConflictName c = true :=
  fun c hc => endsConflictName_of_blank (h.blank c hc)

theorem NameQuote.separator (q : NameQuote) : endsConflictName q.char = true := by
  cases q with
  | single => rfl
  | double => rfl

namespace ConflictName

variable {name : String}

theorem ne_nil (h : ConflictName name) : name.toList ≠ [] := by
  intro hnil
  exact h.1 (String.toList_eq_nil_iff.1 hnil)

/-- A name holds nothing that ends one. -/
theorem inside (h : ConflictName name) : ∀ c ∈ name.toList, endsConflictName c = false := by
  intro c hc
  obtain ⟨hblank, hmark⟩ := h.2 c hc
  simp only [List.mem_cons, List.not_mem_nil, or_false, not_or] at hmark
  simp [endsConflictName, hblank, hmark]

theorem fields_eq (h : ConflictName name) : fields endsConflictName name.toList = [name.toList] :=
  fields_eq_singleton h.ne_nil h.inside

end ConflictName

theorem QuotedName.fields_chars {q : QuotedName} (h : q.Proper) :
    fields endsConflictName q.chars = [q.name.toList] := by
  have hquote := q.quote.separator
  unfold chars
  rw [fields_separators_append h.before.separator, fields_cons hquote, fields_append_cons hquote,
    h.name.fields_eq, fields_separators h.after.separator]
  rfl

namespace ListingLine

/-- Names with blanks before each are the fields of what is written. -/
theorem fields_spaced {names : List (String × String)} {tail : String} (htail : LineBlanks tail)
    (hnames : ∀ n ∈ names, (LineBlanks n.1 ∧ n.1 ≠ "") ∧ ConflictName n.2) (indent : String) :
    EndsKeyword (spaced indent names tail).part ∧
      fields endsConflictName (spaced indent names tail).part =
        names.map fun n => n.2.toList := by
  induction names with
  | nil =>
    refine ⟨fun c hc => .inr ?_, fields_separators htail.separator⟩
    exact htail.blank c (List.mem_of_head? hc)
  | cons n names ih =>
    obtain ⟨⟨hgap, hne⟩, hname⟩ := hnames n List.mem_cons_self
    obtain ⟨hrest, hfields⟩ := ih fun m hm => hnames m (List.mem_cons_of_mem n hm)
    have hpart : (spaced indent (n :: names) tail).part =
        n.1.toList ++ (n.2.toList ++ (spaced indent names tail).part) := by
      simp [part]
    rw [hpart]
    constructor
    · intro c hc
      have hne' : n.1.toList ≠ [] := fun hnil => hne (String.toList_eq_nil_iff.1 hnil)
      rw [List.head?_append_of_ne_nil _ hne'] at hc
      exact .inr (hgap.blank c (List.mem_of_head? hc))
    · -- the name ends where the blanks before the next one begin, or with the line
      have hends : ∀ c, (spaced indent names tail).part.head? = some c →
          endsConflictName c = true := by
        intro c hc
        rcases hrest c hc with rfl | hblank
        · rfl
        · exact endsConflictName_of_blank hblank
      rw [fields_separators_append hgap.separator,
        fields_field_append hname.ne_nil hname.inside hends, hfields]
      rfl

/-- Names in quotes are the fields of what is written. -/
theorem fields_called {names : List QuotedName} {tail : String} (htail : LineBlanks tail)
    (hnames : ∀ q ∈ names, q.Proper) (indent : String) :
    fields endsConflictName (called indent names tail).part =
      names.map fun q => q.name.toList := by
  have hcomma : endsConflictName ',' = true := rfl
  have hclose : endsConflictName ')' = true := rfl
  have hargs : fields endsConflictName (joinWith [','] (names.map QuotedName.chars)) =
      names.map fun q => q.name.toList := by
    rw [fields_joinWith hcomma, List.flatMap_map, List.map_eq_flatMap]
    exact List.flatMap_congr fun q hq => QuotedName.fields_chars (hnames q hq)
  unfold part
  rw [fields_cons rfl, fields_append_cons hclose, hargs, fields_separators htail.separator,
    List.append_nil]

/-- The names of a line are read back. -/
theorem conflictNames_line {l : ListingLine} (h : l.Proper) :
    conflictNames l.chars = l.names.map String.toList := by
  cases l with
  | spaced indent names tail =>
    obtain ⟨hindent, htail, hnames⟩ := h
    obtain ⟨hends, hfields⟩ := fields_spaced htail hnames indent
    unfold chars
    rw [conflictNames_keyword hindent.blank hends, hfields]
    simp [ListingLine.names]
  | called indent names tail =>
    obtain ⟨hindent, htail, hnames⟩ := h
    have hends : EndsKeyword (called indent names tail).part := by
      intro c hc
      exact .inl (Option.some.inj hc).symm
    unfold chars
    rw [conflictNames_keyword hindent.blank hends, fields_called htail hnames]
    simp [ListingLine.names]
  | other text => exact conflictNames_of_not_declares h.2

/-! ## Listings -/

theorem newline_notMem_name {name : String} (h : ConflictName name) : '\n' ∉ name.toList := by
  intro hc
  have hblank := (h.2 '\n' hc).1
  cases hblank

theorem newline_notMem_quoted {q : QuotedName} (h : q.Proper) : '\n' ∉ q.chars := by
  have hquote : '\n' ≠ q.quote.char := by cases q.quote <;> decide
  simp [QuotedName.chars, hquote, h.before.newline_notMem, newline_notMem_name h.name,
    h.after.newline_notMem]

/-- A line goes over no line feed. -/
theorem newline_notMem_chars {l : ListingLine} (h : l.Proper) : '\n' ∉ l.chars := by
  have hkeyword : '\n' ∉ "conflict".toList := by decide
  cases l with
  | spaced indent names tail =>
    obtain ⟨hindent, htail, hnames⟩ := h
    unfold chars part
    simp only [List.mem_append, List.mem_flatMap, not_or, not_exists, not_and]
    refine ⟨hindent.newline_notMem, hkeyword, fun n hn => ?_, htail.newline_notMem⟩
    obtain ⟨⟨hgap, -⟩, hname⟩ := hnames n hn
    exact ⟨hgap.newline_notMem, newline_notMem_name hname⟩
  | called indent names tail =>
    obtain ⟨hindent, htail, hnames⟩ := h
    have hargs : '\n' ∉ joinWith [','] (names.map QuotedName.chars) := by
      intro hc
      rcases mem_of_mem_joinWith hc with hc | ⟨w, hw, hc⟩
      · cases List.mem_singleton.1 hc
      · obtain ⟨q, hq, rfl⟩ := List.mem_map.1 hw
        exact newline_notMem_quoted (hnames q hq) hc
    unfold chars part
    simp [hargs, hindent.newline_notMem, htail.newline_notMem]
  | other text => exact h.1

end ListingLine

/-- What ends a line. -/
inductive LineEnd
  | feed
  | returnFeed
  deriving DecidableEq, Repr

namespace LineEnd

/-- What stands before the line feed of a line end. -/
def beforeFeed : LineEnd → List Char
  | feed => []
  | returnFeed => ['\r']

/-- A line end as it is written. -/
def chars (e : LineEnd) : List Char := e.beforeFeed ++ ['\n']

theorem blank_beforeFeed (e : LineEnd) : ∀ c ∈ e.beforeFeed, isBlank c = true := by
  cases e with
  | feed => exact List.forall_mem_nil _
  | returnFeed => exact List.forall_mem_singleton.2 rfl

theorem newline_notMem_beforeFeed (e : LineEnd) : '\n' ∉ e.beforeFeed := by
  cases e <;> decide

end LineEnd

/-- A listing: lines with their ends, and perhaps a last line without one. -/
structure Listing where
  ended : List (ListingLine × LineEnd)
  last : Option ListingLine := none
  deriving DecidableEq, Repr

namespace Listing

/-- The lines of a listing, in order. -/
def lines (l : Listing) : List ListingLine := l.ended.map Prod.fst ++ l.last.toList

/-- A listing as it is written. -/
def text (l : Listing) : String :=
  String.ofList (l.ended.flatMap (fun e => e.1.chars ++ e.2.chars)
    ++ (l.last.map ListingLine.chars).getD [])

/-- The names of all conflict lines, in order of appearance. -/
def names (l : Listing) : List String := l.lines.flatMap ListingLine.names

/-- Every line is proper. -/
def Proper (l : Listing) : Prop := ∀ line ∈ l.lines, line.Proper

instance (l : Listing) : Decidable l.Proper :=
  inferInstanceAs (Decidable (∀ line ∈ l.lines, line.Proper))

/-- What is read from a line and its end, and what is read from the rest. -/
theorem flatMap_pieces_ended {line : ListingLine} (h : line.Proper) (e : LineEnd)
    (rest : List Char) :
    (pieces (· == '\n') (line.chars ++ e.chars ++ rest)).flatMap conflictNames =
      line.names.map String.toList ++ (pieces (· == '\n') rest).flatMap conflictNames := by
  have hfeed : '\n' ∉ line.chars ++ e.beforeFeed := by
    rw [List.mem_append, not_or]
    exact ⟨ListingLine.newline_notMem_chars h, e.newline_notMem_beforeFeed⟩
  -- a carriage return before the line feed is a blank at the end of the line
  have hnames : conflictNames (line.chars ++ e.beforeFeed) = line.names.map String.toList := by
    rw [conflictNames_congr (trim_append_blanks e.blank_beforeFeed line.chars)]
    exact ListingLine.conflictNames_line h
  have hsplit : line.chars ++ e.chars ++ rest = (line.chars ++ e.beforeFeed) ++ '\n' :: rest := by
    simp [LineEnd.chars]
  rw [hsplit, pieces_append_mark hfeed, List.flatMap_cons, hnames]

theorem flatMap_pieces_last {last : Option ListingLine} (h : ∀ line ∈ last, line.Proper) :
    (pieces (· == '\n') ((last.map ListingLine.chars).getD [])).flatMap conflictNames =
      (last.toList.flatMap ListingLine.names).map String.toList := by
  cases last with
  | none => rfl
  | some line =>
    have hline := h line rfl
    show (pieces (· == '\n') line.chars).flatMap conflictNames = _
    rw [pieces_of_notMem (ListingLine.newline_notMem_chars hline)]
    simp [ListingLine.conflictNames_line hline]

/-- A listing is read line by line, from the first one on. -/
theorem flatMap_pieces_lines {ended : List (ListingLine × LineEnd)} {last : Option ListingLine}
    (hended : ∀ e ∈ ended, e.1.Proper) (hlast : ∀ line ∈ last, line.Proper) :
    (pieces (· == '\n') (ended.flatMap (fun e => e.1.chars ++ e.2.chars)
        ++ (last.map ListingLine.chars).getD [])).flatMap conflictNames =
      ((ended.map Prod.fst ++ last.toList).flatMap ListingLine.names).map String.toList := by
  induction ended with
  | nil => exact flatMap_pieces_last hlast
  | cons e ended ih =>
    have hfirst : e.1.Proper := hended e List.mem_cons_self
    have hrest : ∀ e' ∈ ended, e'.1.Proper := fun e' he' =>
      hended e' (List.mem_cons_of_mem e he')
    rw [List.flatMap_cons, List.append_assoc, flatMap_pieces_ended hfirst e.2, ih hrest]
    simp

/-- The names of its conflict lines are read back from a listing: all of them, in order of
appearance and as often as they appear, and nothing from the other lines. -/
theorem conflicts_read_back {l : Listing} (h : l.Proper) : moduleConflicts l.text = l.names := by
  have hlast : ∀ line ∈ l.last, line.Proper := fun line hline =>
    h line (List.mem_append_right _ (by simpa using hline))
  have hended : ∀ e ∈ l.ended, e.1.Proper := fun e he =>
    h e.1 (List.mem_append_left _ (List.mem_map_of_mem he))
  have hread := flatMap_pieces_lines hended hlast
  rw [moduleConflicts_eq]
  unfold text names lines
  rw [String.toList_ofList, hread, List.map_map]
  simp

/-- Both forms of conflict lines, with and without names, and lines that only look like one. -/
def gccListing : Listing where
  ended :=
    [(.other "/opt/modules/gcc/13:", .feed), (.spaced "\t" [(" ", "intel"), ("\t ", "llvm/17")] " ",
        .returnFeed),
      (.other "conflicts_with nothing", .feed), (.other "  conflict", .feed),
      (.called "  " [⟨"", .double, "clang", ""⟩, ⟨" ", .single, "intel", " "⟩] "\t", .returnFeed),
      (.called "" [] "", .feed), (.other "-- conflict(\"pgi\")", .feed)]
  last := some (.spaced "" [("\u2003", "aocc{4}")] "\r")

/-- A name that two lines declare is read twice, and what a note says is not read. -/
theorem conflicts_read_back_gcc : gccListing.Proper ∧
    moduleConflicts gccListing.text = ["intel", "llvm/17", "clang", "intel", "aocc{4}"] :=
  have h : gccListing.Proper := by decide +kernel
  ⟨h, conflicts_read_back h⟩

end Listing

end Toolchain
