import Toolchain.Proofs.Shell.Steps

/-!
# Lines of commands

A line of a script that holds only simple commands, of which some are only run if others fail.
Such a line is read as it was written: word for word, and command for command.

  * `Piece`, `SimpleCommand`, `Alternatives`, `Line` — what is written; `text` — how it is written.
  * `statement`, `statements` — what it means.

## Main statements

  * `readScript_line` — the script that is one line is read as the statements of the line.
-/

namespace Toolchain.Shell

/-! ## What is written -/

/-- A text that is taken as one word. -/
abbrev RawWord := { w : List Char // IsRaw w }

/-- A piece of a simple command: a word, or a descriptor that is made the same as another one. -/
inductive Piece
  | word (w : RawWord)
  | duplicate (digits : List Char) (isDigit : digits.all Char.isDigit = true) (target : RawWord)

namespace Piece

/-- How a piece is written. -/
def text : Piece → List Char
  | word w => w.1
  | duplicate digits _ target => digits ++ '>' :: '&' :: target.1

/-- The word that a piece is. -/
def word? : Piece → Option Word
  | word w => some (partsOf false w.1)
  | duplicate .. => none

/-- The redirection that a piece is. -/
def redirection? : Piece → Option Redirection
  | word _ => none
  | duplicate digits _ target => some ⟨duplicated digits, .duplicate, partsOf false target.1⟩

end Piece

/-- A simple command: its name, which has no other meaning in this place, and what follows it. -/
structure SimpleCommand where
  name : RawWord
  pieces : List Piece
  not_reserved : String.ofList name.1 ∉ reservedWords
  not_assignment : assignment? name.1 = none

/-- The pieces of a command behind its name, each behind a blank. -/
def piecesText (ps : List Piece) : List Char := ps.flatMap fun p => ' ' :: p.text

namespace SimpleCommand

/-- How a command is written. -/
def text (c : SimpleCommand) : List Char := c.name.1 ++ piecesText c.pieces

/-- What a command means in a line of a script. -/
def statement (c : SimpleCommand) (line : Nat) : Statement :=
  .simple line [] (partsOf false c.name.1 :: c.pieces.filterMap Piece.word?)
    (c.pieces.filterMap Piece.redirection?)

end SimpleCommand

/-- What may stand behind a simple command: the end, or an operator and a blank. -/
inductive Stop : List Char → Prop
  | done : Stop []
  | next (rest : List Char) : Stop (';' :: ' ' :: rest)
  | orElse (rest : List Char) : Stop ('|' :: '|' :: ' ' :: rest)

namespace Stop

variable {rest : List Char}

theorem head (h : Stop rest) {c : Char} (hc : rest.head? = some c) : c = ';' ∨ c = '|' := by
  cases h with
  | done => cases hc
  | next => exact Or.inl (Option.some.inj hc).symm
  | orElse => exact Or.inr (Option.some.inj hc).symm

theorem settled (h : Stop rest) : Settled rest := by
  intro c hc
  obtain rfl | rfl := h.head hc <;> decide

theorem wordEnd (h : Stop rest) : WordEnd rest := by
  intro c hc
  obtain rfl | rfl := h.head hc <;> decide

/-- No other operator stands behind a simple command. -/
theorem operatorAt?_ne (h : Stop rest) {op : String} (hnext : op ≠ ";") (horElse : op ≠ "||") :
    operatorAt? rest ≠ some op := by
  cases h with
  | done => exact fun h => nomatch h
  | next rest =>
    have hop : operatorAt? (';' :: ' ' :: rest) = some ";" := rfl
    rw [hop]
    exact fun h => hnext (Option.some.inj h).symm
  | orElse rest =>
    have hop : operatorAt? ('|' :: '|' :: ' ' :: rest) = some "||" := rfl
    rw [hop]
    exact fun h => horElse (Option.some.inj h).symm

theorem reads_takeOperator_false (h : Stop rest) {op : String} (hnext : op ≠ ";")
    (horElse : op ≠ "||") (k n : Nat) :
    Reads (takeOperator op) ⟨blanks k ++ rest, n⟩ false ⟨rest, n⟩ :=
  Shell.reads_takeOperator_false h.settled (h.operatorAt?_ne hnext horElse) k n

end Stop

/-- What may stand behind a word of a command: it ends the word, begins no redirection for which
the word would name a descriptor, and makes no definition of a function of the word. -/
structure Behind (tail : List Char) : Prop where
  ends : WordEnd tail
  quiet : ∀ c, tail.head? = some c → c ≠ '<' ∧ c ≠ '>' ∧ c.isDigit = false
  apart : (withoutBlanks tail).head? ≠ some '('

theorem Stop.behind {rest : List Char} (h : Stop rest) (k : Nat) : Behind (blanks k ++ rest) := by
  have happart : (withoutBlanks (blanks k ++ rest)).head? ≠ some '(' := by
    rw [withoutBlanks_blanks h.settled]
    intro hparen
    obtain hc | hc := h.head hparen <;> exact absurd hc (by decide)
  cases k with
  | zero =>
    refine ⟨h.wordEnd, ?_, happart⟩
    intro c hc
    obtain rfl | rfl := h.head hc <;> decide
  | succ k =>
    refine ⟨?_, ?_, happart⟩
    · rintro c ⟨⟩; decide
    · rintro c ⟨⟩; decide

theorem Piece.settled (p : Piece) (tail : List Char) : Settled (p.text ++ tail) := by
  cases p with
  | word w => exact w.2.settled tail
  | duplicate digits hdigits target =>
    rw [text, List.append_assoc, List.cons_append]
    exact settled_duplicate hdigits _

theorem Piece.head?_ne (p : Piece) (tail : List Char) : (p.text ++ tail).head? ≠ some '(' := by
  cases p with
  | word w =>
    obtain ⟨c, cs, hw, hend, -⟩ := w.2.head
    rw [text, hw]
    rintro ⟨⟩
    exact absurd hend (by decide)
  | duplicate digits hdigits target =>
    rw [text, List.append_assoc, List.cons_append]
    intro hc
    obtain h | h := head_duplicate hdigits hc <;> exact absurd h (by decide)

theorem Piece.behind (p : Piece) (tail : List Char) : Behind (' ' :: (p.text ++ tail)) := by
  refine ⟨?_, ?_, ?_⟩
  · rintro c ⟨⟩; decide
  · rintro c ⟨⟩; decide
  · have happart := withoutBlanks_blanks (p.settled tail) 1
    change withoutBlanks (' ' :: (p.text ++ tail)) = p.text ++ tail at happart
    rw [happart]
    exact p.head?_ne tail

theorem behind_piecesText {rest : List Char} (h : Stop rest) (ps : List Piece) (k : Nat) :
    Behind (piecesText ps ++ (blanks k ++ rest)) := by
  cases ps with
  | nil => exact h.behind k
  | cons p ps =>
    rw [piecesText, List.flatMap_cons, List.append_assoc]
    exact p.behind _

/-! ## Reading a simple command -/

/-- What a draft is when a piece has been added behind the name. -/
def Draft.addPiece (d : Draft) (p : Piece) : Draft :=
  { d with
    words := p.word?.toList ++ d.words
    redirections := p.redirection?.toList ++ d.redirections }

/-- Digits in front of what stands behind a word name no descriptor. -/
theorem Behind.quiet_dropWhile {tail : List Char} (h : Behind tail) :
    ∀ c, (tail.dropWhile Char.isDigit).head? = some c → c ≠ '<' ∧ c ≠ '>' := by
  have hself : tail.dropWhile Char.isDigit = tail :=
    Text.dropWhile_eq_self_of_head fun d hd => (h.quiet d hd).2.2
  rw [hself]
  exact fun c hc => ⟨(h.quiet c hc).1, (h.quiet c hc).2.1⟩

theorem Behind.quiet_append {tail : List Char} (h : Behind tail) {w : List Char} (hw : IsRaw w) :
    ∀ c, ((w ++ tail).dropWhile Char.isDigit).head? = some c → c ≠ '<' ∧ c ≠ '>' := by
  intro c hc
  rw [List.dropWhile_append] at hc
  split at hc
  · -- the whole word is digits
    exact h.quiet_dropWhile c hc
  · next hne =>
    rw [List.isEmpty_iff] at hne
    rw [List.head?_append_of_ne_nil _ hne] at hc
    have hend : endsWord c = false := hw.front c hc
    constructor <;> (rintro rfl; exact absurd hend (by decide))

theorem reads_draft_word {w tail : List Char} (hw : IsRaw w) (htail : Behind tail) {fuel : Nat}
    {d e : Draft} {t : Source} (k : Nat) {n : Nat}
    (h : Reads (readDraft fuel (d.addWord w)) ⟨tail, n + w.count '\n'⟩ e t) :
    Reads (readDraft (fuel + 1) d) ⟨blanks k ++ (w ++ tail), n⟩ e t := by
  rw [readDraft]
  refine .bind (reads_takeRedirection_none (hw.settled tail) (htail.quiet_append hw) k n) ?_
  exact .bind (reads_takeRaw hw htail.ends 0 n) h

/-- Behind the name a word is never an assignment. -/
theorem reads_draft_piece {p : Piece} {tail : List Char} (htail : Behind tail) {fuel : Nat}
    {d e : Draft} (hd : d.words ≠ []) {t : Source} (k : Nat) {n : Nat}
    (h : Reads (readDraft fuel (d.addPiece p)) ⟨tail, n + p.text.count '\n'⟩ e t) :
    Reads (readDraft (fuel + 1) d) ⟨blanks k ++ (p.text ++ tail), n⟩ e t := by
  cases p with
  | word w =>
    have hadd : d.addWord w.1 = d.addPiece (.word w) := by
      have hempty : d.words.isEmpty = false := by simpa using hd
      simp [Draft.addWord, hempty, Draft.addPiece, Piece.word?, Piece.redirection?]
    exact reads_draft_word w.2 htail k (hadd ▸ h)
  | duplicate digits hdigits target =>
    have hline : (digits ++ '>' :: '&' :: target.1).count '\n' = target.1.count '\n' := by
      simp [count_digits hdigits]
    rw [Piece.text, hline] at h
    rw [Piece.text, List.append_assoc, readDraft]
    exact .bind (reads_takeRedirection hdigits target.2 htail.ends k n) h

theorem reads_draft_stop {rest : List Char} (h : Stop rest) (fuel : Nat) (d : Draft) (k n : Nat) :
    Reads (readDraft (fuel + 1) d) ⟨blanks k ++ rest, n⟩ d ⟨rest, n⟩ := by
  rw [readDraft]
  exact .bind (reads_takeRedirection_none h.settled (h.behind 0).quiet_dropWhile k n)
    (.bind (reads_takeRaw_none h.settled h.wordEnd 0 n) (.pure _ _))

/-- The pieces behind the name are added one by one, up to the end of the command. -/
theorem reads_draft_pieces {rest : List Char} (h : Stop rest) (ps : List Piece) {fuel : Nat}
    (hfuel : ps.length < fuel) {d : Draft} (hd : d.words ≠ []) (k n : Nat) :
    Reads (readDraft fuel d) ⟨piecesText ps ++ (blanks k ++ rest), n⟩ (ps.foldl Draft.addPiece d)
      ⟨rest, n + (piecesText ps).count '\n'⟩ := by
  induction ps generalizing fuel d n with
  | nil =>
    obtain ⟨fuel, rfl⟩ := Nat.exists_eq_add_one_of_ne_zero (Nat.ne_zero_of_lt hfuel)
    exact reads_draft_stop h _ d k n
  | cons p ps ih =>
    obtain ⟨fuel, rfl⟩ := Nat.exists_eq_add_one_of_ne_zero (Nat.ne_zero_of_lt hfuel)
    have hwords : (d.addPiece p).words ≠ [] := by simp [Draft.addPiece, hd]
    have hrest := ih (Nat.lt_of_succ_lt_succ hfuel) hwords (n + p.text.count '\n')
    have hcount : n + (piecesText (p :: ps)).count '\n' =
        n + p.text.count '\n' + (piecesText ps).count '\n' := by
      simp [piecesText, Nat.add_assoc]
    have htext : piecesText (p :: ps) ++ (blanks k ++ rest) =
        blanks 1 ++ (p.text ++ (piecesText ps ++ (blanks k ++ rest))) := by
      simp [piecesText, blanks]
    rw [hcount, htext]
    exact reads_draft_piece (behind_piecesText h ps k) hd 1 hrest

theorem foldl_addPiece (ps : List Piece) (d : Draft) :
    ps.foldl Draft.addPiece d =
      { d with
        words := (ps.filterMap Piece.word?).reverse ++ d.words
        redirections := (ps.filterMap Piece.redirection?).reverse ++ d.redirections } := by
  induction ps generalizing d with
  | nil => rfl
  | cons p ps ih =>
    rw [List.foldl_cons, ih]
    cases p <;> simp [Draft.addPiece, List.filterMap_cons, Piece.word?, Piece.redirection?]

/-- A simple command is read as it was written. -/
theorem reads_readSimple (c : SimpleCommand) {rest : List Char} (h : Stop rest) {fuel : Nat}
    (hfuel : c.pieces.length + 1 < fuel) (k j n : Nat) :
    Reads (readSimple fuel) ⟨blanks k ++ (c.text ++ (blanks j ++ rest)), n⟩ (c.statement n)
      ⟨rest, n + c.text.count '\n'⟩ := by
  obtain ⟨fuel, rfl⟩ := Nat.exists_eq_add_one_of_ne_zero (Nat.ne_zero_of_lt hfuel)
  have hname : ({} : Draft).addWord c.name.1 = { words := [partsOf false c.name.1] } := by
    simp [Draft.addWord, c.not_assignment]
  have hpieces := reads_draft_pieces h c.pieces (Nat.lt_of_succ_lt_succ hfuel)
    (d := ({} : Draft).addWord c.name.1) (by simp [hname]) j (n + c.name.1.count '\n')
  have hdraft := reads_draft_word c.name.2 (behind_piecesText h c.pieces j) 0 hpieces
  rw [foldl_addPiece, hname] at hdraft
  rw [SimpleCommand.text, List.append_assoc, List.count_append, ← Nat.add_assoc]
  unfold readSimple
  refine .bind (reads_skipBlanks (c.name.2.settled _) k n) (.bind (.get _) (.bind hdraft ?_))
  rw [if_neg (by simp)]
  -- a parenthesis is looked for behind more than one word, too
  refine .bind (h.reads_takeOperator_false (by decide) (by decide) 0 _) ?_
  rw [if_neg (by simp)]
  simpa [SimpleCommand.statement] using Reads.pure _ _

/-! ## Reading a command among others -/

theorem SimpleCommand.settled (c : SimpleCommand) (tail : List Char) :
    Settled (c.text ++ tail) := by
  rw [text, List.append_assoc]
  exact c.name.2.settled _

/-- A command begins with a character that does not end a word. -/
theorem SimpleCommand.head_text (c : SimpleCommand) {tail : List Char} {d : Char}
    (hd : (c.text ++ tail).head? = some d) : endsWord d = false := by
  obtain ⟨e, es, hname, hend, -⟩ := c.name.2.head
  rw [text, hname] at hd
  cases hd
  exact hend

theorem SimpleCommand.head?_ne_newline (c : SimpleCommand) (tail : List Char) :
    (c.text ++ tail).head? ≠ some '\n' :=
  fun h => absurd (c.head_text h) (by decide)

theorem SimpleCommand.operatorAt?_text (c : SimpleCommand) (tail : List Char) :
    operatorAt? (c.text ++ tail) = none :=
  operatorAt?_eq_none fun _ hd => c.head_text hd

section

variable (c : SimpleCommand) {rest : List Char} (h : Stop rest) (k j n : Nat)

include h

/-- No function is defined where a simple command stands. -/
theorem reads_definitionAhead :
    Reads definitionAhead ⟨blanks k ++ (c.text ++ (blanks j ++ rest)), n⟩ none
      ⟨c.text ++ (blanks j ++ rest), n⟩ := by
  have htail := behind_piecesText h c.pieces j
  rw [SimpleCommand.text, List.append_assoc]
  refine .bind (reads_wordAhead c.name.2 htail.ends k n) ?_
  dsimp only
  split
  · next heq => exact absurd (by rw [heq]; rfl) htail.apart
  · exact .pure _ _

theorem reads_reservedAhead_command :
    Reads reservedAhead ⟨blanks k ++ (c.text ++ (blanks j ++ rest)), n⟩ none
      ⟨c.text ++ (blanks j ++ rest), n⟩ := by
  rw [SimpleCommand.text, List.append_assoc]
  exact reads_reservedAhead c.name.2 c.not_reserved (behind_piecesText h c.pieces j).ends k n

theorem reads_readUnit {fuel : Nat} (hfuel : c.pieces.length + 2 < fuel) :
    Reads (readUnit fuel) ⟨blanks k ++ (c.text ++ (blanks j ++ rest)), n⟩ (c.statement n)
      ⟨rest, n + c.text.count '\n'⟩ := by
  obtain ⟨fuel, rfl⟩ := Nat.exists_eq_add_one_of_ne_zero (Nat.ne_zero_of_lt hfuel)
  rw [readUnit]
  -- no parenthesis, no reserved word and no definition: what stands here is a simple command
  refine .bind (reads_skipBlanks (c.settled _) k n) (.bind (.get _) ?_)
  refine .bind (reads_takeOperator_false (c.settled _) (by simp [c.operatorAt?_text]) 0 n) ?_
  rw [if_neg (by simp)]
  refine .bind (reads_reservedAhead_command c h 0 j n) ?_
  refine .bind (reads_definitionAhead c h 0 j n) ?_
  exact reads_readSimple c h (Nat.lt_of_succ_lt_succ hfuel) 0 j n

theorem reads_readPipes {fuel : Nat} (hfuel : c.pieces.length + 3 < fuel) :
    Reads (readPipes fuel) ⟨blanks k ++ (c.text ++ (blanks j ++ rest)), n⟩ (c.statement n)
      ⟨rest, n + c.text.count '\n'⟩ := by
  obtain ⟨fuel, rfl⟩ := Nat.exists_eq_add_one_of_ne_zero (Nat.ne_zero_of_lt hfuel)
  rw [readPipes]
  refine .bind (reads_readUnit c h k j n (Nat.lt_of_succ_lt_succ hfuel)) ?_
  refine .bind (h.reads_takeOperator_false (by decide) (by decide) 0 _) ?_
  rw [if_neg (by simp)]
  exact .pure _ _

theorem reads_readPipeline {fuel : Nat} (hfuel : c.pieces.length + 4 < fuel) :
    Reads (readPipeline fuel) ⟨blanks k ++ (c.text ++ (blanks j ++ rest)), n⟩ (c.statement n)
      ⟨rest, n + c.text.count '\n'⟩ := by
  obtain ⟨fuel, rfl⟩ := Nat.exists_eq_add_one_of_ne_zero (Nat.ne_zero_of_lt hfuel)
  rw [readPipeline]
  refine .bind (reads_reservedAhead_command c h k j n) ?_
  rw [if_neg (by simp)]
  exact reads_readPipes c h 0 j n (Nat.lt_of_succ_lt_succ hfuel)

end

/-! ## Reading alternatives -/

/-- Commands of which each one is only run if those before it fail. -/
structure Alternatives where
  first : SimpleCommand
  others : List SimpleCommand

/-- How the other commands of alternatives are written. -/
def othersText (cs : List SimpleCommand) : List Char :=
  cs.flatMap fun c => ' ' :: '|' :: '|' :: ' ' :: c.text

/-- What alternatives mean, where `before` is what the first ones do. -/
def eitherFrom (line : Nat) (before : Statement) : List SimpleCommand → Statement
  | [] => before
  | c :: cs => eitherFrom (line + c.text.count '\n') (.either before (c.statement line)) cs

namespace Alternatives

/-- How alternatives are written. -/
def text (a : Alternatives) : List Char := a.first.text ++ othersText a.others

/-- What alternatives mean in a line of a script. -/
def statement (a : Alternatives) (line : Nat) : Statement :=
  eitherFrom (line + a.first.text.count '\n') (a.first.statement line) a.others

end Alternatives

/-- The pieces of a command are fewer than its characters, which bound the steps of the reader. -/
theorem SimpleCommand.length_pieces_lt (c : SimpleCommand) : c.pieces.length < c.text.length := by
  have hpieces : c.pieces.length ≤ (piecesText c.pieces).length := by
    induction c.pieces with
    | nil => exact Nat.zero_le _
    | cons p ps ih =>
      simp only [piecesText, List.flatMap_cons, List.length_append, List.length_cons] at ih ⊢
      omega
  obtain ⟨d, ds, hname, -⟩ := c.name.2.head
  simp only [text, hname, List.length_append, List.length_cons]
  omega

/-- How many blanks stand in front of the other commands. The command before them is read with
these blanks, so that what follows it is the end or an operator. -/
def gap (cs : List SimpleCommand) : Nat := if cs.isEmpty then 0 else 1

/-- The other commands behind these blanks, and what follows them. -/
def orElseText : List SimpleCommand → List Char → List Char
  | [], rest => rest
  | c :: cs, rest => '|' :: '|' :: ' ' :: (c.text ++ (othersText cs ++ rest))

theorem othersText_append (cs : List SimpleCommand) (rest : List Char) :
    othersText cs ++ rest = blanks (gap cs) ++ orElseText cs rest := by
  cases cs with
  | nil => rfl
  | cons c cs => simp [othersText, gap, blanks, orElseText]

theorem stop_orElseText {rest : List Char} (h : Stop rest) (cs : List SimpleCommand) :
    Stop (orElseText cs rest) := by
  cases cs with
  | nil => exact h
  | cons c cs => exact .orElse _

theorem reads_readChainRest {rest : List Char} (h : Stop rest)
    (hlast : operatorAt? rest ≠ some "||") (cs : List SimpleCommand) {fuel : Nat}
    (hfuel : (othersText cs).length < fuel) (before : Statement) (n : Nat) :
    Reads (readChainRest fuel before) ⟨orElseText cs rest, n⟩ (eitherFrom n before cs)
      ⟨rest, n + (othersText cs).count '\n'⟩ := by
  induction cs generalizing fuel before n with
  | nil =>
    obtain ⟨fuel, rfl⟩ := Nat.exists_eq_add_one_of_ne_zero (Nat.ne_zero_of_lt hfuel)
    rw [readChainRest]
    refine .bind (h.reads_takeOperator_false (by decide) (by decide) 0 n) ?_
    rw [if_neg (by simp)]
    refine .bind (reads_takeOperator_false h.settled hlast 0 n) ?_
    rw [if_neg (by simp)]
    exact .pure _ _
  | cons c cs ih =>
    obtain ⟨fuel, rfl⟩ := Nat.exists_eq_add_one_of_ne_zero (Nat.ne_zero_of_lt hfuel)
    have htext : (othersText (c :: cs)).length = c.text.length + 4 + (othersText cs).length := by
      simp only [othersText, List.flatMap_cons, List.length_append, List.length_cons]
    have hcount : n + (othersText (c :: cs)).count '\n' =
        n + c.text.count '\n' + (othersText cs).count '\n' := by
      simp [othersText, Nat.add_assoc]
    have hpieces := c.length_pieces_lt
    have hstop : Stop (orElseText (c :: cs) rest) := stop_orElseText h _
    have hor : Reads (takeOperator "||") ⟨orElseText (c :: cs) rest, n⟩ true
        ⟨blanks 1 ++ (c.text ++ (othersText cs ++ rest)), n⟩ :=
      reads_takeOperator hstop.settled rfl (by decide) 0 n
    have hnext := reads_readPipeline c (stop_orElseText h cs) 0 (gap cs) n
      (show c.pieces.length + 4 < fuel by omega)
    have hothers := ih (show (othersText cs).length < fuel by omega)
      (.either before (c.statement n)) (n + c.text.count '\n')
    rw [← othersText_append] at hnext
    rw [readChainRest, hcount]
    refine .bind (hstop.reads_takeOperator_false (by decide) (by decide) 0 n) ?_
    rw [if_neg (by simp)]
    refine .bind hor ?_
    rw [if_pos rfl]
    exact .bind (reads_skipAll (c.settled _) (c.head?_ne_newline _) 1 n) (.bind hnext hothers)

/-- Alternatives are read as they were written. -/
theorem reads_readChain (a : Alternatives) {rest : List Char} (h : Stop rest)
    (hlast : operatorAt? rest ≠ some "||") {fuel : Nat} (hfuel : a.text.length + 4 < fuel)
    (k n : Nat) :
    Reads (readChain fuel) ⟨blanks k ++ (a.text ++ rest), n⟩ (a.statement n)
      ⟨rest, n + a.text.count '\n'⟩ := by
  obtain ⟨fuel, rfl⟩ := Nat.exists_eq_add_one_of_ne_zero (Nat.ne_zero_of_lt hfuel)
  have hpieces := a.first.length_pieces_lt
  rw [Alternatives.text, List.length_append] at hfuel
  have hfirst := reads_readPipeline a.first (stop_orElseText h a.others) k (gap a.others) n
    (show a.first.pieces.length + 4 < fuel by omega)
  have hothers := reads_readChainRest h hlast a.others
    (show (othersText a.others).length < fuel by omega) (a.first.statement n)
    (n + a.first.text.count '\n')
  rw [← othersText_append] at hfirst
  rw [Alternatives.text, List.append_assoc, List.count_append, ← Nat.add_assoc, readChain]
  exact .bind hfirst hothers

/-! ## Reading a line -/

/-- A line: alternatives, one after the other. -/
structure Line where
  first : Alternatives
  others : List Alternatives

/-- How the other parts of a line are written. -/
def restText (as : List Alternatives) : List Char := as.flatMap fun a => ';' :: ' ' :: a.text

/-- What parts of a line mean, from a line of a script on. -/
def statementsFrom (line : Nat) : List Alternatives → List Statement
  | [] => []
  | a :: as => a.statement line :: statementsFrom (line + a.text.count '\n') as

namespace Line

/-- How a line is written. -/
def text (l : Line) : List Char := l.first.text ++ restText l.others

/-- What the line means that a script begins with. -/
def statements (l : Line) : List Statement := statementsFrom 1 (l.first :: l.others)

end Line

theorem stop_restText (as : List Alternatives) : Stop (restText as) := by
  cases as with
  | nil => exact .done
  | cons a as => exact .next _

theorem operatorAt?_restText_ne (as : List Alternatives) : operatorAt? (restText as) ≠ some "||" := by
  cases as with
  | nil => exact fun h => nomatch h
  | cons a as =>
    have hop : operatorAt? (restText (a :: as)) = some ";" := rfl
    rw [hop]
    decide

/-- A part of a line begins with a command. -/
theorem Alternatives.head_text (a : Alternatives) {tail : List Char} {d : Char}
    (hd : (a.text ++ tail).head? = some d) : endsWord d = false := by
  rw [text, List.append_assoc] at hd
  exact a.first.head_text hd

theorem Alternatives.exists_cons_text (a : Alternatives) (tail : List Char) :
    ∃ c cs, a.text ++ tail = c :: cs := by
  obtain ⟨c, cs, hname, -⟩ := a.first.name.2.head
  exact ⟨c, _, by rw [text, SimpleCommand.text, hname]; rfl⟩

theorem reads_readMore_last (a : Alternatives) {fuel : Nat} (hfuel : a.text.length + 4 < fuel)
    (k n : Nat) :
    Reads (readMore (fuel + 1) true) ⟨blanks k ++ a.text, n⟩ [a.statement n]
      ⟨[], n + a.text.count '\n'⟩ := by
  have hchain := reads_readChain a .done (by decide) hfuel k n
  rw [List.append_nil] at hchain
  rw [readMore]
  refine .bind hchain (.bind (Stop.done.reads_takeOperator_false (by decide) (by decide) 0 _) ?_)
  rw [if_neg (by simp)]
  refine .bind (reads_takeOperator_false Stop.done.settled (by decide) 0 _) ?_
  rw [if_neg (by simp)]
  exact .bind (.get _) (.pure _ _)

theorem reads_readMore_next (a b : Alternatives) (as : List Alternatives) {fuel : Nat}
    (hfuel : a.text.length + 4 < fuel) (k n : Nat) {statements : List Statement} {t : Source}
    (h : Reads (readStatements fuel true)
      ⟨blanks 1 ++ (b.text ++ restText as), n + a.text.count '\n'⟩ statements t) :
    Reads (readMore (fuel + 1) true) ⟨blanks k ++ (a.text ++ restText (b :: as)), n⟩
      (a.statement n :: statements) t := by
  have hstop := stop_restText (b :: as)
  have hchain := reads_readChain a hstop (operatorAt?_restText_ne (b :: as)) hfuel k n
  have hsemi : Reads (takeOperator ";") ⟨restText (b :: as), n + a.text.count '\n'⟩ true
      ⟨blanks 1 ++ (b.text ++ restText as), n + a.text.count '\n'⟩ :=
    reads_takeOperator hstop.settled rfl (by decide) 0 _
  rw [readMore]
  refine .bind hchain (.bind (hstop.reads_takeOperator_false (by decide) (by decide) 0 _) ?_)
  rw [if_neg (by simp)]
  refine .bind hsemi ?_
  rw [if_pos rfl]
  exact .bind h (.pure _ _)

/-- Statements go on with the part of a line that comes next. -/
theorem reads_readStatements (a : Alternatives) (as : List Alternatives) {fuel : Nat} (k n : Nat)
    {statements : List Statement} {t : Source}
    (h : Reads (readMore fuel true) ⟨a.text ++ restText as, n⟩ statements t) :
    Reads (readStatements (fuel + 1) true) ⟨blanks k ++ (a.text ++ restText as), n⟩
      statements t := by
  have htext : a.text ++ restText as =
      a.first.text ++ (blanks (gap a.others) ++ orElseText a.others (restText as)) := by
    rw [Alternatives.text, List.append_assoc, othersText_append]
  have hahead := reads_reservedAhead_command a.first
    (stop_orElseText (stop_restText as) a.others) 0 (gap a.others) n
  have hsettled : Settled (a.text ++ restText as) := by
    rw [htext]
    exact a.first.settled _
  rw [← htext] at hahead
  rw [readStatements]
  refine .bind (reads_skipBlanks hsettled k n) (.bind (.get _) ?_)
  dsimp only
  -- a command begins with a word, so the statements do not end here
  split
  · next heq =>
    obtain ⟨c, cs, hcons⟩ := a.exists_cons_text (restText as)
    rw [hcons] at heq
    cases heq
  · next heq => exact absurd (a.head_text (by rw [heq]; rfl)) (by decide)
  · next heq => exact absurd (a.head_text (by rw [heq]; rfl)) (by decide)
  · next heq => exact absurd (a.head_text (by rw [heq]; rfl)) (by decide)
  · exact .bind hahead h

/-- The parts of a line are read one by one. -/
theorem reads_readMore (a : Alternatives) (as : List Alternatives) {fuel : Nat}
    (hfuel : (a.text ++ restText as).length + 4 < fuel) (k n : Nat) :
    Reads (readMore (fuel + 1) true) ⟨blanks k ++ (a.text ++ restText as), n⟩
      (statementsFrom n (a :: as)) ⟨[], n + (a.text ++ restText as).count '\n'⟩ := by
  induction as generalizing a fuel k n with
  | nil =>
    rw [show restText [] = [] from rfl, List.append_nil] at hfuel ⊢
    exact reads_readMore_last a hfuel k n
  | cons b as ih =>
    have htext : (a.text ++ restText (b :: as)).length =
        a.text.length + 2 + (b.text ++ restText as).length := by
      simp only [restText, List.flatMap_cons, List.length_append, List.length_cons]
      omega
    have hcount : n + (a.text ++ restText (b :: as)).count '\n' =
        n + a.text.count '\n' + (b.text ++ restText as).count '\n' := by
      simp [restText, Nat.add_assoc]
    obtain ⟨fuel, rfl⟩ := Nat.exists_eq_add_of_le' (show 2 ≤ fuel by omega)
    have hrest := ih b (show (b.text ++ restText as).length + 4 < fuel by omega) 0
      (n + a.text.count '\n')
    rw [hcount]
    exact reads_readMore_next a b as (show a.text.length + 4 < fuel + 2 by omega) k n
      (reads_readStatements b as 1 _ hrest)

/-! ## Reading a script of one line -/

theorem reads_readLine (l : Line) {fuel : Nat} (hfuel : l.text.length + 4 < fuel) :
    Reads (readLine (fuel + 2)) ⟨l.text, 1⟩ l.statements ⟨[], 1 + l.text.count '\n'⟩ := by
  have hmore := reads_readMore l.first l.others hfuel 0 1
  unfold readLine
  refine .bind (reads_readStatements l.first l.others 0 1 hmore) ?_
  exact .bind (reads_skipBlanks Stop.done.settled 0 _) (.bind (.get _) (.pure _ _))

/-- The script that is one line is read as the statements of the line. -/
theorem readScript_line (l : Line) :
    readScript (String.ofList l.text) = { statements := l.statements } := by
  have hne : l.text ≠ [] := by
    obtain ⟨c, cs, hcons⟩ := l.first.exists_cons_text (restText l.others)
    rw [Line.text, hcons]
    exact List.cons_ne_nil c cs
  have hdepth : (l.text.length + 1) * stepsPerCharacter = 12 * l.text.length + 10 + 2 := by
    rw [stepsPerCharacter]
    omega
  have hline : (readLine (12 * l.text.length + 10 + 2)).run ⟨l.text, 1⟩ = _ :=
    reads_readLine l (by omega)
  have hend (depth fuel n : Nat) : readScriptFrom depth fuel ⟨[], n⟩ = {} := by
    cases fuel <;> rfl
  unfold readScript
  simp only [String.toList_ofList, hdepth]
  rw [readScriptFrom, if_neg hne, hline]
  simp only [hend, List.append_nil]

end Toolchain.Shell
