import Toolchain.LinkLine
import Toolchain.Proofs.Text.Words

/-!
# The tokens of a link line

A link line is tokens with blanks between them. Some tokens name a directory, bare or in
quotes; the others do not begin like one that does. The scanner knows nothing of tokens: it
looks for an argument after each blank that it has not taken with an argument before. It
reads the directories of the tokens all the same, also where a directory in quotes holds
blanks and text that looks like an argument.

## Main statements

  * `linkArgs_true`, `linkArgs_false_cons` — the two states of the scanner: at a place where
    an argument can begin, and inside of what is none.
  * `linkArgs_token` — one token gives the directory that it names.
  * `linkArgs_line` — a line gives those of its tokens, in order.
-/

namespace Toolchain

namespace Text

/-! ## The scanner -/

theorem linkArgs_nil (start : Bool) : linkArgs start [] = [] := by rw [linkArgs]

theorem linkArgs_cons (start : Bool) (c : Char) (cs : List Char) :
    linkArgs start (c :: cs) =
      match if start then linkDir? (c :: cs) else none with
      | some (d, rest) => d :: linkArgs false rest
      | none =>
        match if isBlank c then linkDir? cs else none with
        | some (d, rest) => d :: linkArgs false rest
        | none => linkArgs false cs := by
  rw [linkArgs]
  split
  next d rest h => rw [h]
  next h =>
    rw [h]
    dsimp only
    split
    next d rest h' => rw [h']
    next h' => rw [h']

/-- Where an argument can begin, one is taken if there is one. -/
theorem linkArgs_true (s : List Char) :
    linkArgs true s =
      match linkDir? s with
      | some (d, rest) => d :: linkArgs false rest
      | none => linkArgs false s := by
  cases s with
  | nil =>
    rw [linkArgs_nil]
    exact (linkArgs_nil false).symm
  | cons c cs =>
    rw [linkArgs_cons, linkArgs_cons, if_pos rfl]
    cases linkDir? (c :: cs) <;> rfl

/-- Elsewhere the next blank is where one can begin. -/
theorem linkArgs_false_cons (c : Char) (cs : List Char) :
    linkArgs false (c :: cs) = if isBlank c then linkArgs true cs else linkArgs false cs := by
  rw [linkArgs_cons]
  by_cases hc : isBlank c
  · rw [if_pos hc, if_pos hc, linkArgs_true]
    rfl
  · rw [if_neg hc, if_neg hc]
    rfl

/-- Nothing begins inside of a word. -/
theorem linkArgs_false_append {w : List Char} (hw : ∀ c ∈ w, isBlank c = false)
    (rest : List Char) : linkArgs false (w ++ rest) = linkArgs false rest := by
  induction w with
  | nil => rfl
  | cons c cs ih =>
    rw [List.cons_append, linkArgs_false_cons, hw c List.mem_cons_self,
      ← ih fun d hd => hw d (List.mem_cons_of_mem _ hd)]
    rfl

/-! ## Where a token ends -/

/-- At the end of the text or before a blank. -/
def Ended (rest : List Char) : Prop := ∀ c, rest.head? = some c → isBlank c = true

theorem ended_nil : Ended [] := fun _ h => nomatch h

theorem ended_append {gap : List Char} (hgap : ∀ c ∈ gap, isBlank c = true) (hne : gap ≠ [])
    (rest : List Char) : Ended (gap ++ rest) := by
  cases gap with
  | nil => exact absurd rfl hne
  | cons b bs =>
    intro c hc
    cases hc
    exact hgap b List.mem_cons_self

theorem not_blank_of_all {s : List Char} (h : s.all (fun c => !isBlank c) = true) :
    ∀ c ∈ s, isBlank c = false := fun c hc => by
  simpa using List.all_eq_true.1 h c hc

/-- A text without blanks that begins there begins before. -/
theorem prefix_of_prefix_append {pat w rest : List Char} (hpat : ∀ c ∈ pat, isBlank c = false)
    (hrest : Ended rest) (h : pat <+: w ++ rest) : pat <+: w := by
  induction pat generalizing w with
  | nil => exact List.nil_prefix
  | cons c cs ih =>
    cases w with
    | nil =>
      obtain ⟨t, rfl⟩ := h
      have hc := hrest c rfl
      rw [hpat c List.mem_cons_self] at hc
      cases hc
    | cons d ds =>
      obtain ⟨rfl, ht⟩ := List.cons_prefix_cons.1 h
      exact List.cons_prefix_cons.2 ⟨rfl, ih (fun a ha => hpat a (List.mem_cons_of_mem _ ha)) ht⟩

/-- What an argument begins with. -/
theorem prefix_of_linkDir? {s d rest : List Char} (h : linkDir? s = some (d, rest)) :
    "-L".toList <+: s ∨ "\"-L".toList <+: s := by
  unfold linkDir? at h
  split at h
  next t => exact .inr ⟨t, rfl⟩
  next t => exact .inl ⟨_, rfl⟩
  next t _ => exact .inl ⟨_, rfl⟩
  · cases h

theorem linkDir?_eq_none {s : List Char} (h : ¬"-L".toList <+: s) (hq : ¬"\"-L".toList <+: s) :
    linkDir? s = none := by
  cases he : linkDir? s with
  | none => rfl
  | some r =>
    obtain ⟨d, rest⟩ := r
    exact ((prefix_of_linkDir? he).elim h hq).elim

/-- No argument begins at the end of a token. -/
theorem linkArgs_ended {rest : List Char} (h : Ended rest) :
    linkArgs true rest = linkArgs false rest := by
  have hnone : linkDir? rest = none := by
    apply linkDir?_eq_none <;> intro hp <;>
      exact absurd (prefix_of_prefix_append (not_blank_of_all rfl) h (w := []) hp) (by decide)
  rw [linkArgs_true, hnone]

/-- Blanks are passed over. -/
theorem linkArgs_blanks {gap : List Char} (h : ∀ c ∈ gap, isBlank c = true) (rest : List Char) :
    linkArgs true (gap ++ rest) = linkArgs true rest := by
  induction gap with
  | nil => rfl
  | cons b bs ih =>
    have hb := h b List.mem_cons_self
    rw [linkArgs_ended (ended_append h (by simp) rest), List.cons_append, linkArgs_false_cons,
      if_pos hb, ih fun c hc => h c (List.mem_cons_of_mem _ hc)]

/-! ## Arguments -/

theorem quotedDir?_append {d : List Char} (hne : d ≠ []) (hd : '"' ∉ d) (rest : List Char) :
    quotedDir? (d ++ '"' :: rest) = some (d, rest) := by
  have hall : ∀ c ∈ d, decide (c ≠ '"') = true := fun c hc => by
    rw [decide_eq_true_eq]
    rintro rfl
    exact hd hc
  unfold quotedDir?
  rw [List.takeWhile_append_of_pos hall, List.dropWhile_append_of_pos hall]
  cases d with
  | nil => exact absurd rfl hne
  | cons c cs => simp

theorem span_bareDir_ended {rest : List Char} (h : Ended rest) :
    rest.takeWhile isBareDirChar = [] ∧ rest.dropWhile isBareDirChar = rest := by
  cases rest with
  | nil => exact ⟨rfl, rfl⟩
  | cons b bs =>
    have hb : isBareDirChar b = false := by
      unfold isBareDirChar
      rw [h b rfl]
      rfl
    simp [hb]

theorem bareDir?_append {d : List Char} (hne : d ≠ []) (hd : ∀ c ∈ d, isBareDirChar c = true)
    {rest : List Char} (hrest : Ended rest) : bareDir? (d ++ rest) = some (d, rest) := by
  unfold bareDir?
  rw [List.takeWhile_append_of_pos hd, List.dropWhile_append_of_pos hd,
    (span_bareDir_ended hrest).1, (span_bareDir_ended hrest).2, List.append_nil]
  cases d with
  | nil => exact absurd rfl hne
  | cons c cs => rfl

theorem bareDir?_ended {rest : List Char} (h : Ended rest) : bareDir? rest = none := by
  unfold bareDir?
  rw [(span_bareDir_ended h).1]

/-- Without a quote after it, `-L` has a bare directory or none. -/
theorem linkDir?_bare {s : List Char} (h : s.head? ≠ some '"') :
    linkDir? ('-' :: 'L' :: s) = bareDir? s := by
  unfold linkDir?
  split
  next he => cases he
  next he => cases he; exact absurd rfl h
  next he => cases he; rfl
  next hn => exact absurd rfl (hn s)

end Text

/-! ## Tokens -/

/-- A token of a link line: `-Ldir`, `"-Ldir"`, `-L"dir"`, `-L` alone, or a word that is none of
these. -/
inductive LinkToken
  | bare (dir : String)
  | quoted (dir : String)
  | inner (dir : String)
  | lone
  | word (text : String)
  deriving DecidableEq, Repr

namespace LinkToken

open Text

/-- A token as it is written. -/
def chars : LinkToken → List Char
  | bare d => '-' :: 'L' :: d.toList
  | quoted d => '"' :: '-' :: 'L' :: (d.toList ++ ['"'])
  | inner d => '-' :: 'L' :: '"' :: (d.toList ++ ['"'])
  | lone => ['-', 'L']
  | word w => w.toList

/-- The directory that a token names. -/
def dir? : LinkToken → Option String
  | bare d => some d
  | quoted d => some d
  | inner d => some d
  | lone => none
  | word _ => none

/-- What a directory may hold depends on the quotes; what is no argument is a word that does
not begin like one. -/
def Proper : LinkToken → Prop
  | bare d => d.toList ≠ [] ∧ ∀ c ∈ d.toList, isBlank c = false ∧ c ≠ '"'
  | quoted d => d.toList ≠ [] ∧ '"' ∉ d.toList
  | inner d => d.toList ≠ [] ∧ '"' ∉ d.toList
  | lone => True
  | word w =>
    (w.toList ≠ [] ∧ ∀ c ∈ w.toList, isBlank c = false) ∧
      ¬"-L".toList <+: w.toList ∧ ¬"\"-L".toList <+: w.toList

instance : (t : LinkToken) → Decidable t.Proper
  | bare d => decidable_of_iff (d.toList ≠ [] ∧ d.toList.all isBareDirChar = true)
      (by simp [Proper, isBareDirChar])
  | quoted d => inferInstanceAs (Decidable (d.toList ≠ [] ∧ '"' ∉ d.toList))
  | inner d => inferInstanceAs (Decidable (d.toList ≠ [] ∧ '"' ∉ d.toList))
  | lone => .isTrue trivial
  | word w => decidable_of_iff
      ((w.toList ≠ [] ∧ w.toList.all (fun c => !isBlank c) = true) ∧
        ¬"-L".toList <+: w.toList ∧ ¬"\"-L".toList <+: w.toList)
      (by simp [Proper])

/-- An argument is taken from a token that names a directory, and only then. -/
theorem linkDir?_token {t : LinkToken} (h : t.Proper) {rest : List Char} (hrest : Ended rest) :
    linkDir? (t.chars ++ rest) = t.dir?.map fun d => (d.toList, rest) := by
  cases t with
  | bare d =>
    obtain ⟨hne, hd⟩ := h
    -- the directory does not begin with a quote, so it is not taken for one in quotes
    have hhead : (d.toList ++ rest).head? ≠ some '"' := by
      rw [List.head?_append]
      cases hl : d.toList with
      | nil => exact absurd hl hne
      | cons c cs => simpa using (hd c (by rw [hl]; exact List.mem_cons_self)).2
    have hchars : ∀ c ∈ d.toList, isBareDirChar c = true := fun c hc => by
      simp [isBareDirChar, hd c hc]
    exact (linkDir?_bare hhead).trans (bareDir?_append hne hchars hrest)
  | quoted d =>
    show _ = some (d.toList, rest)
    rw [← quotedDir?_append h.1 h.2 rest]
    simp [chars, linkDir?]
  | inner d =>
    show _ = some (d.toList, rest)
    rw [← quotedDir?_append h.1 h.2 rest]
    simp [chars, linkDir?]
  | lone =>
    have hhead : rest.head? ≠ some '"' := fun he => absurd (hrest _ he) (by decide)
    exact (linkDir?_bare hhead).trans (bareDir?_ended hrest)
  | word w =>
    -- what comes after the word begins with a blank and cannot complete an argument
    exact linkDir?_eq_none
      (fun hp => h.2.1 (prefix_of_prefix_append (not_blank_of_all rfl) hrest hp))
      fun hp => h.2.2 (prefix_of_prefix_append (not_blank_of_all rfl) hrest hp)

theorem not_blank_of_no_dir {t : LinkToken} (h : t.Proper) (hd : t.dir? = none) :
    ∀ c ∈ t.chars, isBlank c = false := by
  cases t with
  | bare d => cases hd
  | quoted d => cases hd
  | inner d => cases hd
  | lone => exact not_blank_of_all rfl
  | word w => exact h.1.2

/-- One token gives the directory that it names. -/
theorem linkArgs_token {t : LinkToken} (h : t.Proper) {rest : List Char} (hrest : Ended rest) :
    linkArgs true (t.chars ++ rest) = (t.dir?.map String.toList).toList ++ linkArgs true rest := by
  rw [linkArgs_ended hrest, linkArgs_true, linkDir?_token h hrest]
  cases hd : t.dir? with
  | none => exact linkArgs_false_append (not_blank_of_no_dir h hd) rest
  | some d => rfl

end LinkToken

/-! ## Lines -/

/-- A link line: blanks, and tokens with the blanks after each. -/
structure LinkLine where
  lead : String
  tokens : List (LinkToken × String)
  deriving DecidableEq, Repr

namespace LinkLine

open Text

/-- Tokens with the blanks after them, as they are written. -/
def charsOf (ts : List (LinkToken × String)) : List Char :=
  ts.flatMap fun t => t.1.chars ++ t.2.toList

/-- A line as it is written. -/
def text (line : LinkLine) : String := String.ofList (line.lead.toList ++ charsOf line.tokens)

/-- The directories that a line names. -/
def dirs (line : LinkLine) : List String := line.tokens.filterMap fun t => t.1.dir?

/-- Every token is proper, what stands between tokens is blank, and something does. -/
structure Proper (line : LinkLine) : Prop where
  lead : ∀ c ∈ line.lead.toList, isBlank c = true
  tokens : ∀ t ∈ line.tokens, t.1.Proper
  gaps : ∀ t ∈ line.tokens, ∀ c ∈ t.2.toList, isBlank c = true
  apart : ∀ t ∈ line.tokens.dropLast, t.2.toList ≠ []

instance (line : LinkLine) : Decidable line.Proper :=
  decidable_of_iff
    (line.lead.toList.all isBlank = true ∧ (∀ t ∈ line.tokens, t.1.Proper) ∧
      (∀ t ∈ line.tokens, t.2.toList.all isBlank = true) ∧
      ∀ t ∈ line.tokens.dropLast, t.2.toList ≠ [])
    (by
      simp only [List.all_eq_true]
      exact ⟨fun ⟨hl, ht, hg, ha⟩ => ⟨hl, ht, hg, ha⟩, fun ⟨hl, ht, hg, ha⟩ => ⟨hl, ht, hg, ha⟩⟩)

theorem linkArgs_tokens {ts : List (LinkToken × String)} (htokens : ∀ t ∈ ts, t.1.Proper)
    (hgaps : ∀ t ∈ ts, ∀ c ∈ t.2.toList, isBlank c = true)
    (hapart : ∀ t ∈ ts.dropLast, t.2.toList ≠ []) :
    linkArgs true (charsOf ts) = (ts.filterMap fun t => t.1.dir?).map String.toList := by
  induction ts with
  | nil => exact linkArgs_nil true
  | cons t ts ih =>
    have hgap := hgaps t List.mem_cons_self
    -- only after the last token there may be no blank, and there the text ends
    have hended : Ended (t.2.toList ++ charsOf ts) := by
      cases ts with
      | nil =>
        by_cases hne : t.2.toList = []
        · rw [hne]
          exact ended_nil
        · exact ended_append hgap hne _
      | cons u us => exact ended_append hgap (hapart t List.mem_cons_self) _
    have ih := ih (fun u hu => htokens u (List.mem_cons_of_mem _ hu))
      (fun u hu => hgaps u (List.mem_cons_of_mem _ hu))
      fun u hu => hapart u (by
        cases ts with
        | nil => cases hu
        | cons v vs => exact List.mem_cons_of_mem _ hu)
    show linkArgs true (t.1.chars ++ t.2.toList ++ charsOf ts) = _
    rw [List.append_assoc, LinkToken.linkArgs_token (htokens t List.mem_cons_self) hended,
      linkArgs_blanks hgap, ih, List.filterMap_cons]
    cases t.1.dir? <;> rfl

/-- A line gives the directories of its tokens, in order. -/
theorem linkArgs_line {line : LinkLine} (h : line.Proper) :
    linkArgs true line.text.toList = line.dirs.map String.toList := by
  unfold text
  rw [String.toList_ofList, linkArgs_blanks h.lead]
  exact linkArgs_tokens h.tokens h.gaps h.apart

end LinkLine

end Toolchain
