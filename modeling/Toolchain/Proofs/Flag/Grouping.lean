import Toolchain.Flag.Atoms
import Toolchain.Proofs.Text.Words

/-!
# Atoms are the only grouping

A text of flags is cut into words, and the words are grouped into atoms: a word with a dash at
its beginning opens an atom of its own, and the others stay with the atom that is open. Groups
of this form are known by the words in them, so there is no other way to group the words of a
text into atoms that have words, and atoms that are written one after the other are read back.
An atom without words is empty, and can stand in front of any others.

  * `Text.Grouped` — the form of groups that stand side by side.
  * `Grouping` — what atoms are for a text.

## Main statements

  * `Text.groupWords_eq_iff` — grouping words finds the only groups of this form.
  * `grouping_tokenizeFlags`, `Grouping.eq_tokenizeFlags` — so do the atoms of a text.
  * `unique_grouping` — the atoms of a text are its only grouping without an empty atom, and are
    read back.
  * `second_grouping` — with an empty atom there is another one.
-/

namespace Toolchain

namespace Text

/-! ## Groups of words -/

/-- Groups as they can stand side by side: each has a word, every group but the first begins
with a word that opens it, and no other word opens one. -/
structure Grouped (gs : List (List (List Char))) : Prop where
  ne_nil : ∀ g ∈ gs, g ≠ []
  begins : ∀ g ∈ gs.tail, ∀ w, g.head? = some w → isFlagWord w = true
  continues : ∀ g ∈ gs, ∀ w ∈ g.tail, isFlagWord w = false

theorem groupRest_of_flag {w : List Char} (h : isFlagWord w = true) (ws : List (List Char)) :
    groupRest (w :: ws) = ([], groupWords (w :: ws)) := by
  show (if isFlagWord w = true then _ else _) = _
  rw [if_pos h]
  rfl

theorem groupRest_of_not_flag {w : List Char} (h : isFlagWord w = false)
    (ws : List (List Char)) :
    groupRest (w :: ws) = (w :: (groupRest ws).1, (groupRest ws).2) := by
  show (if isFlagWord w = true then _ else _) = _
  rw [if_neg (by simp [h])]

theorem Grouped.of_cons {g : List (List Char)} {gs : List (List (List Char))}
    (h : Grouped (g :: gs)) : Grouped gs where
  ne_nil x hx := h.ne_nil x (List.mem_cons_of_mem g hx)
  begins x hx := h.begins x (List.mem_of_mem_tail hx)
  continues x hx := h.continues x (List.mem_cons_of_mem g hx)

/-- A group can be put in front of others whose first words open them. -/
theorem Grouped.cons {w : List Char} {ws : List (List Char)} {gs : List (List (List Char))}
    (h : Grouped gs) (hws : ∀ v ∈ ws, isFlagWord v = false)
    (hgs : ∀ g ∈ gs, ∀ v, g.head? = some v → isFlagWord v = true) :
    Grouped ((w :: ws) :: gs) where
  ne_nil := by
    intro g hg
    rcases List.mem_cons.1 hg with rfl | hg
    · exact List.cons_ne_nil w ws
    · exact h.ne_nil g hg
  begins := hgs
  continues := by
    intro g hg v hv
    rcases List.mem_cons.1 hg with rfl | hg
    · exact hws v hv
    · exact h.continues g hg v hv

/-- What grouping gives has the form of groups. The induction is on the words behind the first
one: the next of them opens a group of its own or stays with the first. -/
theorem grouped_cons (w : List Char) (ws : List (List Char)) : Grouped (groupWords (w :: ws)) := by
  induction ws generalizing w with
  | nil => exact ⟨by simp [groupWords, groupRest], by simp [groupWords, groupRest],
      by simp [groupWords, groupRest]⟩
  | cons v ws ih =>
    cases hv : isFlagWord v with
    | true =>
      have hgroups : groupWords (w :: v :: ws) = [w] :: groupWords (v :: ws) := by
        show (w :: (groupRest (v :: ws)).1) :: (groupRest (v :: ws)).2 = _
        rw [groupRest_of_flag hv]
      rw [hgroups]
      refine (ih v).cons (by simp) ?_
      intro g hg u hu
      rcases List.mem_cons.1 hg with rfl | hg
      · obtain rfl : v = u := Option.some.inj hu
        exact hv
      · exact (ih v).begins g hg u hu
    | false =>
      have hgroups : groupWords (w :: v :: ws) =
          (w :: v :: (groupRest ws).1) :: (groupRest ws).2 := by
        show (w :: (groupRest (v :: ws)).1) :: (groupRest (v :: ws)).2 = _
        rw [groupRest_of_not_flag hv]
      -- `v` joins the words that `w` would have alone, and the other groups are the same
      have hrest : Grouped ((w :: (groupRest ws).1) :: (groupRest ws).2) := ih w
      rw [hgroups]
      refine hrest.of_cons.cons ?_ hrest.begins
      intro u hu
      rcases List.mem_cons.1 hu with rfl | hu
      · exact hv
      · exact hrest.continues _ List.mem_cons_self u hu

theorem grouped_groupWords (ws : List (List Char)) : Grouped (groupWords ws) := by
  cases ws with
  | nil => exact ⟨by simp [groupWords], by simp [groupWords], by simp [groupWords]⟩
  | cons w ws => exact grouped_cons w ws

/-- Words that open no group stay with the first one; what follows is grouped on its own. -/
theorem groupWords_append {ws vs : List (List Char)} (w : List Char)
    (hws : ∀ v ∈ ws, isFlagWord v = false)
    (hvs : ∀ v, vs.head? = some v → isFlagWord v = true) :
    groupWords (w :: ws ++ vs) = (w :: ws) :: groupWords vs := by
  -- what the open group takes is `ws`: each of its words goes in, and what follows does not
  have hrest : groupRest (ws ++ vs) = (ws, groupWords vs) := by
    induction ws with
    | nil =>
      cases vs with
      | nil => rfl
      | cons v vs => exact groupRest_of_flag (hvs v rfl) vs
    | cons u ws ih =>
      have hu : isFlagWord u = false := hws u List.mem_cons_self
      rw [List.cons_append, groupRest_of_not_flag hu,
        ih fun v hv => hws v (List.mem_cons_of_mem u hv)]
  show (w :: (groupRest (ws ++ vs)).1) :: (groupRest (ws ++ vs)).2 = _
  rw [hrest]

/-- Groups are found again from their words. -/
theorem groupWords_flatten_of_grouped {gs : List (List (List Char))} (h : Grouped gs) :
    groupWords gs.flatten = gs := by
  induction gs with
  | nil => rfl
  | cons g gs ih =>
    match g, h with
    | [], h => exact absurd rfl (h.ne_nil [] List.mem_cons_self)
    | w :: ws, h =>
      -- the word behind this group is the first one of the next group, so it opens it
      have hnext : ∀ v, gs.flatten.head? = some v → isFlagWord v = true := by
        intro v hv
        match gs, h with
        | [], _ => cases hv
        | [] :: _, h => exact absurd rfl (h.of_cons.ne_nil [] List.mem_cons_self)
        | (u :: us) :: _, h => exact h.begins (u :: us) List.mem_cons_self v hv
      have hws : ∀ v ∈ ws, isFlagWord v = false := h.continues (w :: ws) List.mem_cons_self
      rw [List.flatten_cons, groupWords_append w hws hnext, ih h.of_cons]

/-- Grouping words finds the only groups of this form. -/
theorem groupWords_eq_iff {ws : List (List Char)} {gs : List (List (List Char))} :
    groupWords ws = gs ↔ gs.flatten = ws ∧ Grouped gs := by
  constructor
  · rintro rfl
    exact ⟨groupWords_flatten ws, grouped_groupWords ws⟩
  · rintro ⟨rfl, h⟩
    exact groupWords_flatten_of_grouped h

/-! ## Words of atoms -/

theorem words_of_mem_groupWords {s : List Char} {group : List (List Char)}
    (h : group ∈ groupWords (words s)) : ∀ w ∈ group, IsWord w := by
  intro w hw
  have hmem : w ∈ (groupWords (words s)).flatten := List.mem_flatten.2 ⟨group, h, hw⟩
  rw [groupWords_flatten] at hmem
  exact isWord_of_mem_words hmem

/-- The atoms of a text have the words of its groups. -/
theorem map_words_atomsOf (s : List Char) : (atomsOf s).map words = groupWords (words s) := by
  have hgroup : ∀ g ∈ groupWords (words s), words (joinWith [' '] g) = g :=
    fun g hg => words_joinWith (words_of_mem_groupWords hg)
  unfold atomsOf
  rw [List.map_map]
  exact (List.map_congr_left hgroup).trans (List.map_id _)

/-- Grouping words into atoms loses none, and leaves them in order. -/
theorem flatMap_words_atomsOf (s : List Char) : (atomsOf s).flatMap words = words s := by
  rw [List.flatMap_def, map_words_atomsOf, groupWords_flatten]

/-- Blanks between texts divide their words. -/
theorem words_joinWith_eq_flatMap (ts : List (List Char)) :
    words (joinWith [' '] ts) = ts.flatMap words := by
  induction ts with
  | nil => rfl
  | cons t ts ih =>
    cases ts with
    | nil => simp [joinWith]
    | cons u us =>
      have hjoin : joinWith [' '] (t :: u :: us) = t ++ ' ' :: joinWith [' '] (u :: us) := by
        simp [joinWith]
      have hblank : words (t ++ ' ' :: joinWith [' '] (u :: us)) =
          words t ++ words (joinWith [' '] (u :: us)) := by
        unfold words
        rw [pieces_append_cons (by decide), List.filter_append]
      rw [hjoin, hblank, ih]
      rfl

/-- A text of words begins with the first character of its first word. -/
theorem head?_joinWith {sep : List Char} {ws : List (List Char)} (h : ∀ w ∈ ws, w ≠ []) :
    (joinWith sep ws).head? = ws.head?.bind List.head? := by
  match ws, h with
  | [], _ => rfl
  | [w], _ => rfl
  | [] :: _ :: _, h => exact absurd rfl (h [] List.mem_cons_self)
  | (c :: cs) :: _ :: _, _ => rfl

end Text

open Text

/-! ## Atoms -/

/-- Whether a word or an atom begins with a dash. -/
def BeginsWithDash (s : String) : Prop := s.toList.head? = some '-'

/-- What atoms are for a text: expanding them gives the words of the text, each is its words
with single blanks between them, each but the first begins with a dash, and in none of them a
word behind the first does. -/
structure Grouping (s : String) (atoms : List String) : Prop where
  words : arguments atoms = wordsOf s
  spaced : ∀ a ∈ atoms, a = joined " " (wordsOf a)
  begins : ∀ a ∈ atoms.tail, BeginsWithDash a
  continues : ∀ a ∈ atoms, ∀ w ∈ (wordsOf a).tail, ¬ BeginsWithDash w

/-- The words of atoms, atom by atom. -/
def groupsOf (atoms : List String) : List (List (List Char)) :=
  atoms.map fun a => Text.words a.toList

theorem isFlagWord_iff {w : List Char} : isFlagWord w = true ↔ w.head? = some '-' := beq_iff_eq

theorem spaced_iff {a : String} :
    a = joined " " (wordsOf a) ↔ a.toList = joinWith [' '] (Text.words a.toList) := by
  have hwords : (wordsOf a).map String.toList = Text.words a.toList := by
    simp [wordsOf, Function.comp_def]
  rw [← String.toList_inj, toList_joined, hwords]
  rfl

/-- Expanding atoms gives the words of their groups. -/
theorem arguments_eq_iff {atoms : List String} {s : String} :
    arguments atoms = wordsOf s ↔ (groupsOf atoms).flatten = Text.words s.toList := by
  have harguments : arguments atoms = (groupsOf atoms).flatten.map String.ofList := by
    unfold arguments groupsOf wordsOf
    rw [List.flatMap_def, List.map_flatten, List.map_map]
    rfl
  rw [harguments]
  exact List.map_inj_right fun _ _ h => String.ofList_injective h

theorem groupsOf_tokenizeFlags (s : String) :
    groupsOf (tokenizeFlags s) = groupWords (Text.words s.toList) := by
  unfold groupsOf tokenizeFlags
  rw [List.map_map, ← map_words_atomsOf]
  refine List.map_congr_left fun a ha => ?_
  simp

theorem tokenizeFlags_eq (s : String) :
    tokenizeFlags s =
      (groupWords (Text.words s.toList)).map fun g => String.ofList (joinWith [' '] g) := by
  unfold tokenizeFlags atomsOf
  rw [List.map_map]
  rfl

/-- An atom that is its words begins with a dash if and only if its first word opens it. -/
theorem beginsWithDash_iff {a : String} (h : a = joined " " (wordsOf a)) :
    BeginsWithDash a ↔ ∃ w, (Text.words a.toList).head? = some w ∧ isFlagWord w = true := by
  have hhead : (joinWith [' '] (Text.words a.toList)).head? =
      (Text.words a.toList).head?.bind List.head? :=
    head?_joinWith fun w hw => ne_nil_of_mem_words hw
  unfold BeginsWithDash
  rw [spaced_iff.1 h, hhead, ← spaced_iff.1 h]
  simp [Option.bind_eq_some_iff, isFlagWord_iff]

/-- The groups of atoms that have words are groups as they can stand side by side. -/
theorem Grouping.grouped {s : String} {atoms : List String} (h : Grouping s atoms)
    (hne : "" ∉ atoms) : Grouped (groupsOf atoms) where
  ne_nil := by
    intro g hg
    obtain ⟨a, ha, rfl⟩ := List.mem_map.1 hg
    intro hnil
    have hempty : a = "" := by
      rw [h.spaced a ha, wordsOf, hnil]
      rfl
    exact hne (hempty ▸ ha)
  begins := by
    intro g hg w hw
    rw [groupsOf, ← List.map_tail] at hg
    obtain ⟨a, ha, rfl⟩ := List.mem_map.1 hg
    have hdash := h.begins a ha
    rw [beginsWithDash_iff (h.spaced a (List.mem_of_mem_tail ha))] at hdash
    obtain ⟨v, hv, hflag⟩ := hdash
    obtain rfl : v = w := Option.some.inj (hv.symm.trans hw)
    exact hflag
  continues := by
    intro g hg w hw
    obtain ⟨a, ha, rfl⟩ := List.mem_map.1 hg
    have htail : String.ofList w ∈ (wordsOf a).tail := by
      rw [wordsOf, ← List.map_tail]
      exact List.mem_map.2 ⟨w, hw, rfl⟩
    have hdash := h.continues a ha _ htail
    rw [BeginsWithDash, String.toList_ofList, ← isFlagWord_iff] at hdash
    exact Bool.eq_false_iff.2 hdash

/-- The atoms of a text satisfy the conditions. -/
theorem grouping_tokenizeFlags (s : String) : Grouping s (tokenizeFlags s) := by
  have hgroups := groupsOf_tokenizeFlags s
  have hgrouped : Grouped (groupsOf (tokenizeFlags s)) := hgroups ▸ grouped_groupWords _
  have hspaced : ∀ a ∈ tokenizeFlags s, a = joined " " (wordsOf a) := by
    intro a ha
    rw [tokenizeFlags_eq] at ha
    obtain ⟨g, hg, rfl⟩ := List.mem_map.1 ha
    rw [spaced_iff, String.toList_ofList, words_joinWith (words_of_mem_groupWords hg)]
  constructor
  · exact arguments_eq_iff.2 (by rw [hgroups, groupWords_flatten])
  · exact hspaced
  · intro a ha
    have hmem : Text.words a.toList ∈ (groupsOf (tokenizeFlags s)).tail := by
      rw [groupsOf, ← List.map_tail]
      exact List.mem_map.2 ⟨a, ha, rfl⟩
    have hne := hgrouped.ne_nil _ (List.mem_of_mem_tail hmem)
    rw [beginsWithDash_iff (hspaced a (List.mem_of_mem_tail ha))]
    exact ⟨_, List.head?_eq_some_head hne,
      hgrouped.begins _ hmem _ (List.head?_eq_some_head hne)⟩
  · intro a ha w hw
    rw [wordsOf, ← List.map_tail] at hw
    obtain ⟨v, hv, rfl⟩ := List.mem_map.1 hw
    have hflag := hgrouped.continues _ (List.mem_map.2 ⟨a, ha, rfl⟩) v hv
    rw [BeginsWithDash, String.toList_ofList, ← isFlagWord_iff, hflag]
    exact Bool.false_ne_true

theorem empty_not_mem_tokenizeFlags (s : String) : "" ∉ tokenizeFlags s := by
  intro hmem
  have hnil : Text.words "".toList ∈ groupWords (Text.words s.toList) := by
    rw [← groupsOf_tokenizeFlags]
    exact List.mem_map.2 ⟨"", hmem, rfl⟩
  exact (grouped_groupWords _).ne_nil _ hnil rfl

/-- There are no other atoms that satisfy the conditions, if none of them is empty. -/
theorem Grouping.eq_tokenizeFlags {s : String} {atoms : List String} (h : Grouping s atoms)
    (hne : "" ∉ atoms) : atoms = tokenizeFlags s := by
  have hgroups : groupWords (Text.words s.toList) = groupsOf atoms :=
    groupWords_eq_iff.2 ⟨arguments_eq_iff.1 h.words, h.grouped hne⟩
  -- and an atom is its group, with blanks between the words
  have hatom : ∀ a ∈ atoms, String.ofList (joinWith [' '] (Text.words a.toList)) = a := by
    intro a ha
    rw [← spaced_iff.1 (h.spaced a ha), String.ofList_toList]
  rw [tokenizeFlags_eq, hgroups, groupsOf, List.map_map]
  exact ((List.map_congr_left hatom).trans (List.map_id _)).symm

/-- An empty text has no word, so it is no atom. It can only stand in front. -/
theorem Grouping.eq_cons_of_empty {s : String} {atoms : List String} (h : Grouping s atoms)
    (hempty : "" ∈ atoms) : atoms = "" :: tokenizeFlags s := by
  have hnodash : ¬ BeginsWithDash "" := by
    unfold BeginsWithDash
    decide
  match atoms, h, hempty with
  | a :: rest, h, hempty =>
    have hrest : "" ∉ rest := fun hmem => hnodash (h.begins "" hmem)
    obtain rfl : a = "" := ((List.mem_cons.1 hempty).resolve_right hrest).symm
    have hgrouping : Grouping s rest :=
      { words := h.words
        spaced := fun b hb => h.spaced b (List.mem_cons_of_mem _ hb)
        begins := fun b hb => h.begins b (List.mem_of_mem_tail hb)
        continues := fun b hb => h.continues b (List.mem_cons_of_mem _ hb) }
    rw [hgrouping.eq_tokenizeFlags hrest]

/-- Texts with the same words have the same atoms. -/
theorem tokenizeFlags_congr {s t : String} (h : Text.words s.toList = Text.words t.toList) :
    tokenizeFlags s = tokenizeFlags t := by
  rw [tokenizeFlags_eq, tokenizeFlags_eq, h]

/-- Atoms that are written one after the other are read back. -/
theorem tokenizeFlags_joined (s : String) :
    tokenizeFlags (joined " " (tokenizeFlags s)) = tokenizeFlags s := by
  apply tokenizeFlags_congr
  have hatoms : (tokenizeFlags s).map String.toList = atomsOf s.toList := by
    simp [tokenizeFlags, Function.comp_def]
  have hblank : " ".toList = [' '] := rfl
  rw [toList_joined, hatoms, hblank, words_joinWith_eq_flatMap, flatMap_words_atomsOf]

/-- The atoms of a text satisfy the four conditions. Of the lists without an empty atom they are
the only one, and of all lists the only one but for an empty atom in front of them. Atoms that
are written one after the other are read back. -/
theorem unique_grouping (s : String) :
    Grouping s (tokenizeFlags s) ∧
    (∀ atoms, Grouping s atoms ∧ "" ∉ atoms ↔ atoms = tokenizeFlags s) ∧
    (∀ atoms, Grouping s atoms → atoms = tokenizeFlags s ∨ atoms = "" :: tokenizeFlags s) ∧
    tokenizeFlags (joined " " (tokenizeFlags s)) = tokenizeFlags s := by
  refine ⟨grouping_tokenizeFlags s, ?_, ?_, tokenizeFlags_joined s⟩
  · intro atoms
    constructor
    · rintro ⟨h, hne⟩
      exact h.eq_tokenizeFlags hne
    · rintro rfl
      exact ⟨grouping_tokenizeFlags s, empty_not_mem_tokenizeFlags s⟩
  · intro atoms h
    by_cases hempty : "" ∈ atoms
    · exact .inr (h.eq_cons_of_empty hempty)
    · exact .inl (h.eq_tokenizeFlags hempty)

/-- An empty atom has no words, so the four conditions alone do not determine the atoms. -/
theorem second_grouping :
    Grouping "-g" ["", "-g"] ∧ tokenizeFlags "-g" = ["-g"] ∧
      ¬ ∀ atoms, Grouping "-g" atoms → atoms = tokenizeFlags "-g" := by
  have hwords : ∀ a ∈ ["", "-g"], (wordsOf a).tail = [] := by decide
  have hgrouping : Grouping "-g" ["", "-g"] := by
    constructor
    · decide
    · decide
    · intro a ha
      rw [List.mem_singleton.1 ha]
      rfl
    · intro a ha w hw
      rw [hwords a ha] at hw
      cases hw
  have hatoms : tokenizeFlags "-g" = ["-g"] := by decide
  refine ⟨hgrouping, hatoms, ?_⟩
  intro hunique
  have hsame : ["", "-g"] = ["-g"] := (hunique _ hgrouping).trans hatoms
  exact absurd hsame (by decide)

/-- A value in front of all flags, a lone dash, and blanks that are no spaces. -/
example : tokenizeFlags "x\ty -I\u00a0/opt - -" = ["x y", "-I /opt", "-", "-"] := by decide

end Toolchain
