import Mathlib.Data.List.Forall2
import Toolchain.Proofs.Shell.Words
import Toolchain.Shell.Expansion

/-!
# Fields of words

What plain words and quoted texts are expanded to. A plain word is expanded to itself, and a
quoted text to what was quoted: one field each, without splitting, without a look at the files,
and without a change of the state.

  * `StandsFor` — a word that is expanded to one text.

## Main statements

  * `standsFor_plain`, `standsFor_quoteWord` — what plain words and quoted texts stand for.
  * `expandFields_standsFor` — words that stand for texts are expanded to these.
-/

namespace Toolchain.Shell

open ModuleScript

/-! ## Splitting -/

/-- The characters of a glyph, each with a mark that says whether it was quoted. -/
def Glyph.marked : Glyph → List Marked
  | .char c origin => [(c, origin == .quoted)]
  | .void => []
  | .gap => []

/-- A glyph at which no field ends, whatever the separators are. -/
def Glyph.Solid : Glyph → Prop
  | .char _ origin => origin ≠ .substituted
  | .void => True
  | .gap => False

theorem step_solid {g : Glyph} (hg : g.Solid) (separators : List Char) (s : Splitting) :
    s.step separators g =
      { done := s.done, current := some (g.marked.reverse ++ s.current.getD []),
        absorbs := false } := by
  cases g with
  | char c origin =>
    have horigin : ¬(origin = .substituted ∧ c ∈ separators) := fun h => hg h.1
    simp [Splitting.step, horigin, Splitting.push, Glyph.marked]
  | void => rfl
  | gap => exact hg.elim

theorem foldl_step_solid {gs : List Glyph} (hgs : ∀ g ∈ gs, g.Solid) (separators : List Char)
    (done : List (List Marked)) (field : List Marked) :
    gs.foldl (Splitting.step separators) { done, current := some field, absorbs := false } =
      { done, current := some ((gs.flatMap Glyph.marked).reverse ++ field), absorbs := false } := by
  induction gs generalizing field with
  | nil => rfl
  | cons g gs ih =>
    rw [List.foldl_cons, step_solid (hgs g List.mem_cons_self),
      ih fun x hx => hgs x (List.mem_cons_of_mem _ hx)]
    simp

/-- Glyphs at which no field ends are one field. -/
theorem splitGlyphs_solid {gs : List Glyph} (hne : gs ≠ []) (hgs : ∀ g ∈ gs, g.Solid)
    (separators : List Char) : splitGlyphs separators gs = [gs.flatMap Glyph.marked] := by
  obtain ⟨g, gs, rfl⟩ := List.exists_cons_of_ne_nil hne
  unfold splitGlyphs
  rw [List.foldl_cons, step_solid (hgs g List.mem_cons_self),
    foldl_step_solid fun x hx => hgs x (List.mem_cons_of_mem _ hx)]
  simp [Splitting.close]

/-- A marked character that is no wildcard. -/
def IsFixed (m : Marked) : Prop := m.2 = true ∨ (m.1 ≠ '*' ∧ m.1 ≠ '?' ∧ m.1 ≠ '[')

theorem readItems_fixed {field : List Marked} (h : ∀ m ∈ field, IsFixed m) (fuel : Nat) :
    Pattern.isOpen (Pattern.readItems fuel field) = false := by
  induction field generalizing fuel with
  | nil => cases fuel <;> rfl
  | cons m field ih =>
    obtain ⟨c, quoted⟩ := m
    cases fuel with
    | zero => rfl
    | succ fuel =>
      have hrest := ih (fun x hx => h x (List.mem_cons_of_mem _ hx)) fuel
      have hitem : Pattern.readItems (fuel + 1) ((c, quoted) :: field) =
          .char c :: Pattern.readItems fuel field := by
        obtain hquoted | ⟨hstar, hone, hlist⟩ := h (c, quoted) List.mem_cons_self
        · rw [show quoted = true from hquoted]
          rfl
        · rw [Pattern.readItems, ite_self]
          · exact hstar
          · exact hone
          · exact hlist
      rw [hitem]
      exact hrest

theorem globbed_fixed {field : List Marked} (h : ∀ m ∈ field, IsFixed m) (t : FileTree)
    (cwd : Place) : globbed t cwd field = [markedText field] := by
  unfold globbed Pattern.ofMarked
  rw [readItems_fixed h]
  rfl

/-! ## Words that stand for texts -/

/-- A word that stands for a text: it is expanded without a look at the state, to glyphs at which
no field ends and that hold no wildcards. -/
structure StandsFor (word : Word) (text : String) (gs : List Glyph) : Prop where
  expanded : ∀ capture, expandWord capture word = pure gs
  some_glyph : gs ≠ []
  solid : ∀ g ∈ gs, g.Solid
  fixed : ∀ m ∈ gs.flatMap Glyph.marked, IsFixed m
  text_eq : (gs.flatMap Glyph.marked).map Prod.fst = text.toList

theorem StandsFor.globbed_eq {word : Word} {text : String} {gs : List Glyph}
    (h : StandsFor word text gs) (separators : List Char) (t : FileTree) (cwd : Place) :
    (splitGlyphs separators gs).flatMap (globbed t cwd) = [text] := by
  rw [splitGlyphs_solid h.some_glyph h.solid, List.flatMap_singleton, globbed_fixed h.fixed,
    markedText, h.text_eq, String.ofList_toList]

theorem plainText_solid {gs : List Glyph} (h : ∀ g ∈ gs, g.Solid) :
    plainText gs = markedText (gs.flatMap Glyph.marked) := by
  unfold plainText markedText
  congr 1
  induction gs with
  | nil => rfl
  | cons g gs ih =>
    have hrest := ih fun x hx => h x (List.mem_cons_of_mem _ hx)
    cases g with
    | char c origin => simp [Glyph.marked, hrest]
    | void => simpa [Glyph.marked] using hrest
    | gap => exact (h .gap List.mem_cons_self).elim

theorem StandsFor.expandText_eq {word : Word} {text : String} {gs : List Glyph}
    (h : StandsFor word text gs) (capture : Capture) : expandText capture word = pure text := by
  rw [expandText, h.expanded, pure_bind, plainText_solid h.solid, markedText, h.text_eq,
    String.ofList_toList]

/-! ## Expanding them -/

/-- An expansion goes on with what a first part of it has answered. -/
theorem run_bind_ok {α β : Type} {x : Expanding α} {k : α → Expanding β} {a : α} {s t : State}
    (h : x.run.run s = (.ok a, t)) : (x >>= k).run.run s = (k a).run.run t := by
  rw [ExceptT.run_bind, StateT.run_bind, h]
  rfl

/-- A step that answers for each item without a change of the state does so for all of them. -/
theorem run_mapM_ok {α β : Type} {f : α → Expanding β} {s : State} {xs : List α} {ys : List β}
    (h : List.Forall₂ (fun x y => (f x).run.run s = (.ok y, s)) xs ys) :
    (xs.mapM f).run.run s = (.ok ys, s) := by
  induction h with
  | nil => rfl
  | cons hx _ ih =>
    rw [List.mapM_cons, run_bind_ok hx, run_bind_ok ih]
    rfl

/-- Words that stand for texts are expanded to these texts, whatever the state is. -/
theorem expandFields_standsFor (capture : Capture) {words : List Word} {texts : List String}
    (h : List.Forall₂ (fun word text => ∃ gs, StandsFor word text gs) words texts) (s : State) :
    (expandFields capture words).run.run s = (.ok texts, s) := by
  have hfields : List.Forall₂ (fun word fields => ((do
      let gs ← expandWord capture word
      let s ← get
      return (splitGlyphs (separatorsOf s) gs).flatMap
        (globbed s.process.machine.files s.process.cwd) : Expanding (List String))).run.run s =
      (.ok fields, s)) words (texts.map ([·])) := by
    rw [List.forall₂_map_right_iff]
    refine h.imp fun word text hword => ?_
    obtain ⟨gs, hgs⟩ := hword
    rw [hgs.expanded, pure_bind, ← hgs.globbed_eq]
    rfl
  have hflatten : (texts.map ([·])).flatten = texts := by
    rw [← List.flatMap_def, List.flatMap_singleton']
  rw [expandFields, run_bind_ok (run_mapM_ok hfields), hflatten]
  rfl

/-! ## Plain words and quoted texts -/

/-- A plain word stands for itself: it begins without a tilde, and holds no wildcards. -/
theorem standsFor_plain {w : List Char} (h : IsPlain w) :
    StandsFor [.text false (String.ofList w)] (String.ofList w) (w.map (.char · .plain)) := by
  have hmarked : (w.map (Glyph.char · .plain)).flatMap Glyph.marked = w.map (·, false) := by
    rw [List.flatMap_map]
    exact List.flatMap_pure_eq_map _ _
  constructor
  · intro capture
    have htilde (s : State) :
        tildeGlyphs s (String.ofList w) = glyphsOf .plain (String.ofList w) := by
      obtain ⟨c, cs, rfl⟩ := List.exists_cons_of_ne_nil h.1
      have hc : c ≠ '~' := ne_of_plain (h.char List.mem_cons_self) rfl
      rw [tildeGlyphs, String.toList_ofList]
      split
      · next heq _ => cases heq; exact absurd rfl hc
      · next heq _ => cases heq; exact absurd rfl hc
      · rfl
    have hword : expandWord capture [.text false (String.ofList w)] =
        (tildeGlyphs · (String.ofList w) ++ []) <$> (get : Expanding State) := rfl
    rw [hword]
    simp only [htilde, glyphsOf, String.toList_ofList, List.append_nil]
    rfl
  · simpa using h.1
  · intro g hg
    obtain ⟨c, -, rfl⟩ := List.mem_map.1 hg
    exact fun h => nomatch h
  · rw [hmarked]
    intro m hm
    obtain ⟨c, hc, rfl⟩ := List.mem_map.1 hm
    exact Or.inr ⟨ne_of_plain (h.char hc) rfl, ne_of_plain (h.char hc) rfl,
      ne_of_plain (h.char hc) rfl⟩
  · rw [hmarked, List.map_map, String.toList_ofList]
    exact List.map_id w

/-- The glyphs of a quoted text. -/
def quotedGlyphs (text : String) : List Glyph :=
  if text = "" then [.void] else glyphsOf .quoted text

theorem expandWord_quotedParts (capture : Capture) (ts : List String) :
    expandWord capture (quotedParts ts) = pure (ts.flatMap quotedGlyphs) := by
  have hparts : (quotedParts ts).mapM (expandPart capture substitutionDepth) =
      pure (ts.map quotedGlyphs) := by
    induction ts with
    | nil => rfl
    | cons t ts ih =>
      have hpart : expandPart capture substitutionDepth (.text true t) = pure (quotedGlyphs t) := rfl
      rw [quotedParts, List.map_cons, List.mapM_cons, hpart, pure_bind, ← quotedParts, ih, pure_bind]
      rfl
  have hword : expandWord capture (quotedParts ts) =
      (List.flatten ·) <$> (quotedParts ts).mapM (expandPart capture substitutionDepth) := by
    cases ts <;> rfl
  rw [hword, hparts, map_pure, List.flatMap_def]

theorem flatMap_marked_quotedGlyphs (ts : List String) :
    (ts.flatMap quotedGlyphs).flatMap Glyph.marked =
      (ts.flatMap String.toList).map (·, true) := by
  have hmarked (t : String) : (quotedGlyphs t).flatMap Glyph.marked = t.toList.map (·, true) := by
    unfold quotedGlyphs
    split
    · next h => rw [h]; rfl
    · rw [glyphsOf, List.flatMap_map]
      exact List.flatMap_pure_eq_map _ _
  rw [List.flatMap_assoc, List.map_flatMap]
  exact List.flatMap_congr fun t _ => hmarked t

theorem quotedGlyphs_ne_nil (t : String) : quotedGlyphs t ≠ [] := by
  unfold quotedGlyphs
  split
  · exact List.cons_ne_nil _ _
  · next h => simpa [glyphsOf] using h

theorem solid_quotedGlyphs {t : String} {g : Glyph} (hg : g ∈ quotedGlyphs t) : g.Solid := by
  unfold quotedGlyphs at hg
  split at hg
  · rw [List.mem_singleton.1 hg]
    exact trivial
  · obtain ⟨c, -, rfl⟩ := List.mem_map.1 hg
    exact fun h => nomatch h

/-- A quoted text stands for what was quoted. -/
theorem standsFor_quoteWord (s : List Char) :
    ∃ gs, StandsFor (partsOf false (quoteWord s)) (String.ofList s) gs := by
  obtain ⟨ts, hne, hparts, htext⟩ := partsOf_quoteWord s
  refine ⟨ts.flatMap quotedGlyphs, ?_, ?_, ?_, ?_, ?_⟩
  · rw [hparts]
    exact fun capture => expandWord_quotedParts capture ts
  · obtain ⟨t, ts, rfl⟩ := List.exists_cons_of_ne_nil hne
    simp [quotedGlyphs_ne_nil t]
  · intro g hg
    obtain ⟨t, -, hg⟩ := List.mem_flatMap.1 hg
    exact solid_quotedGlyphs hg
  · rw [flatMap_marked_quotedGlyphs]
    intro m hm
    obtain ⟨c, -, rfl⟩ := List.mem_map.1 hm
    exact Or.inl rfl
  · rw [flatMap_marked_quotedGlyphs, htext, List.map_map, String.toList_ofList]
    exact List.map_id s

end Toolchain.Shell
