import Toolchain.Proofs.Path.Normalization

/-!
# Spellings of a directory

What a directory means does not depend on how it is spelled. `Respelled` lists the ways to
spell it: a separator repeated or put at the end, a `.` put in, a name entered and left again,
and `..` at the root. They are all the ways there are: a path can be respelled as its normal
form, piece by piece, along with the stack that normalizing keeps.

## Main statements

  * `normalize_of_respelled` — all spellings of a directory have one normal form.
  * `respelled_push`, `respelled_pieces` — a step on the stack, and all steps, are respellings.
  * `respelled_iff` — two paths are spellings of one directory if and only if they have one
    normal form.
-/

namespace Toolchain

namespace Path

/-! ## The ways to spell -/

/-- Texts that spell one directory, whatever the file system holds but links. -/
inductive Respelled : List Char → List Char → Prop
  | slashes (s t : List Char) : Respelled (s ++ '/' :: '/' :: t) (s ++ '/' :: t)
  | slash_end {s : List Char} (hs : s ≠ []) : Respelled (s ++ ['/']) s
  | dot (s t : List Char) : Respelled (s ++ '/' :: '.' :: '/' :: t) (s ++ '/' :: t)
  | dot_start {t : List Char} (hne : t ≠ []) (ht : t.head? ≠ some '/') :
      Respelled ('.' :: '/' :: t) t
  | up (s : List Char) {name : String} (hn : IsName name) (t : List Char) :
      Respelled (s ++ '/' :: (name.toList ++ '/' :: '.' :: '.' :: '/' :: t)) (s ++ '/' :: t)
  | up_start {name : String} (hn : IsName name) (t : List Char) :
      Respelled (name.toList ++ '/' :: '.' :: '.' :: '/' :: t) ('.' :: '/' :: t)
  | up_root (t : List Char) : Respelled ('/' :: '.' :: '.' :: '/' :: t) ('/' :: t)
  | refl (s : List Char) : Respelled s s
  | symm {s t : List Char} (h : Respelled s t) : Respelled t s
  | trans {s t u : List Char} (h₁ : Respelled s t) (h₂ : Respelled t u) : Respelled s u

/-- The components up to a separator. -/
def upTo (s : List Char) : List Component := if s = [] then [.root] else componentsOf s

theorem componentsOf_eq_upTo (s t : List Char) :
    componentsOf (s ++ '/' :: t) = upTo s ++ innerOf t := by
  unfold upTo
  split
  next h => rw [h]; rfl
  next h => exact componentsOf_append_slash h t

theorem foldl_componentsOf_relative {t : List Char} (ht : t.head? ≠ some '/') :
    (componentsOf t).foldl pushComponent [] = (innerOf t).foldl pushComponent [] := by
  rw [componentsOf_relative ht]
  rcases ofPieces_eq (Text.pieces (· == '/') t) with h | h <;> rw [h] <;> rfl

/-- All spellings of a directory leave the same components. -/
theorem resolve_of_respelled {s t : List Char} (h : Respelled s t) :
    resolveComponents (componentsOf s) = resolveComponents (componentsOf t) := by
  have hdot (t : List Char) : innerOf ('.' :: '/' :: t) = innerOf t := innerOf_append_slash ['.'] t
  have hup (t : List Char) : innerOf ('.' :: '.' :: '/' :: t) = .parent :: innerOf t :=
    innerOf_append_slash ['.', '.'] t
  induction h with
  | slashes s t => rw [componentsOf_eq_upTo, componentsOf_eq_upTo, innerOf_slash]
  | @slash_end s hs => rw [componentsOf_append_slash hs, innerOf_nil, List.append_nil]
  | dot s t => rw [componentsOf_eq_upTo, componentsOf_eq_upTo, hdot]
  | @dot_start t hne ht =>
    unfold resolveComponents
    rw [foldl_componentsOf_relative ht, foldl_componentsOf_relative (by simp), hdot]
  | @up s name hn t =>
    rw [componentsOf_eq_upTo, componentsOf_eq_upTo, innerOf_append_slash, innerOf_name hn, hup]
    unfold resolveComponents
    simp only [List.foldl_append]
    rfl
  | @up_start name hn t =>
    have hrel : name.toList.head? ≠ some '/' := fun h => hn.no_slash (List.mem_of_head? h)
    have hcur : ('.' :: '/' :: t).head? ≠ some '/' := by simp
    unfold resolveComponents
    rw [componentsOf_append_slash hn.ne_nil, List.foldl_append, foldl_componentsOf_relative hrel,
      foldl_componentsOf_relative hcur, innerOf_name hn, hup, hdot]
    rfl
  | up_root t => rw [componentsOf_slash, componentsOf_slash, hup]; rfl
  | refl s => rfl
  | symm h ih => exact ih.symm
  | trans h₁ h₂ ih₁ ih₂ => exact ih₁.trans ih₂

/-- All spellings of a directory have one normal form. -/
theorem normalize_of_respelled {p q : Path} (h : Respelled p.text.toList q.text.toList) :
    p.normalize = q.normalize := by
  unfold normalize components
  rw [resolve_of_respelled h]

/-! ## Respelling a path as its normal form -/

/-- The text of a stack. -/
def textOf (stack : List Component) : List Char := (ofComponents stack.reverse).text.toList

/-- A separator and the same text may follow two spellings of a directory. -/
theorem Respelled.append {s t : List Char} (h : Respelled s t) (r : List Char) :
    Respelled (s ++ '/' :: r) (t ++ '/' :: r) := by
  induction h with
  | slashes s t => simpa using Respelled.slashes s (t ++ '/' :: r)
  | @slash_end s hs => simpa using Respelled.slashes s r
  | dot s t => simpa using Respelled.dot s (t ++ '/' :: r)
  | @dot_start t hne ht =>
    have hhead : (t ++ '/' :: r).head? ≠ some '/' := by
      cases t with
      | nil => exact absurd rfl hne
      | cons c cs => exact ht
    exact .dot_start (by simp) hhead
  | @up s name hn t => simpa using Respelled.up s hn (t ++ '/' :: r)
  | @up_start name hn t => simpa using Respelled.up_start hn (t ++ '/' :: r)
  | up_root t => exact .up_root (t ++ '/' :: r)
  | refl s => exact .refl _
  | symm h ih => exact ih.symm
  | trans h₁ h₂ ih₁ ih₂ => exact ih₁.trans ih₂

theorem toList_ofComponents_concat {cs : List Component} (hne : cs ≠ []) (hroot : cs ≠ [.root])
    (c : Component) :
    (ofComponents (cs ++ [c])).text.toList =
      (ofComponents cs).text.toList ++ '/' :: c.text.toList := by
  have hconcat (ds : List Component) (hds : ds ≠ []) :
      (joined "/" ((ds ++ [c]).map Component.text)).toList =
        (joined "/" (ds.map Component.text)).toList ++ '/' :: c.text.toList := by
    rw [toList_joined_text, toList_joined_text, List.map_append,
      List.map_singleton, Text.joinWith_concat _ (by simpa using hds)]
    simp
  match cs, hne, hroot with
  | .root :: d :: ds, _, _ =>
    show ("/" ++ joined "/" ((d :: ds ++ [c]).map Component.text)).toList =
      ("/" ++ joined "/" ((d :: ds).map Component.text)).toList ++ _
    rw [String.toList_append, String.toList_append, hconcat _ (by simp), List.append_assoc]
  | .current :: ds, hne, _ => exact hconcat (.current :: ds) hne
  | .parent :: ds, hne, _ => exact hconcat (.parent :: ds) hne
  | .normal n :: ds, hne, _ => exact hconcat (.normal n :: ds) hne

theorem textOf_cons {stack : List Component} (hne : stack ≠ []) (hroot : stack ≠ [.root])
    (c : Component) : textOf (c :: stack) = textOf stack ++ '/' :: c.text.toList := by
  unfold textOf
  rw [List.reverse_cons]
  refine toList_ofComponents_concat (by simpa using hne) (fun h => hroot ?_) c
  simpa using congrArg List.reverse h

theorem textOf_ne_nil {stack : List Component} (h : Normalized stack) : textOf stack ≠ [] := by
  by_cases hne : stack = []
  · subst hne
    decide
  · intro he
    have hcs := components_ofComponents h hne
    unfold components at hcs
    rw [show (ofComponents stack.reverse).text.toList = [] from he] at hcs
    exact hne (List.reverse_eq_nil_iff.1 hcs.symm)

theorem textOf_nil : textOf [] = ['.'] := by decide

theorem textOf_root : textOf [.root] = ['/'] := by decide

theorem textOf_name_root (n : String) : textOf [.normal n, .root] = '/' :: n.toList := by
  show ("/" ++ n).toList = _
  rw [String.toList_append]
  rfl

theorem head_name {n : String} (hn : IsName n) : n.toList.head? ≠ some '/' :=
  fun h => hn.no_slash (List.mem_of_head? h)

/-- A name that is entered and left again. -/
theorem respelled_leave (s : List Char) {n : String} (hn : IsName n) :
    Respelled ((s ++ '/' :: n.toList) ++ ['/', '.', '.']) (s ++ ['/']) := by
  have hend : Respelled ((s ++ '/' :: n.toList) ++ ['/', '.', '.'] ++ ['/'])
      ((s ++ '/' :: n.toList) ++ ['/', '.', '.']) := .slash_end (by simp)
  refine hend.symm.trans ?_
  simpa using Respelled.up s hn []

/-- A step on the stack is a step on the text. -/
theorem respelled_push {stack : List Component} (h : Normalized stack) {c : Component}
    (hc : Inner c) :
    Respelled (textOf stack ++ '/' :: c.text.toList) (textOf (pushComponent stack c)) := by
  cases c with
  | root => exact hc.elim
  | current => exact hc.elim
  | normal n =>
    show Respelled _ (textOf (.normal n :: stack))
    by_cases hnil : stack = []
    · subst hnil
      rw [textOf_nil]
      exact .dot_start (IsName.ne_nil hc) (head_name hc)
    by_cases hroot : stack = [.root]
    · subst hroot
      rw [textOf_name_root, textOf_root]
      exact .slashes [] n.toList
    · rw [textOf_cons hnil hroot]
      exact .refl _
  | parent =>
    cases h with
    | root =>
      -- `//..` is `/..`, and the root is above itself
      have hend : Respelled ['/', '.', '.', '/'] ['/', '.', '.'] :=
        .slash_end (s := ['/', '.', '.']) (by simp)
      show Respelled (textOf [.root] ++ ['/', '.', '.']) (textOf [.root])
      rw [textOf_root]
      exact (Respelled.slashes [] ['.', '.']).trans (hend.symm.trans (.up_root []))
    | relative n =>
      cases n with
      | zero => exact .dot_start (by decide) (by decide)
      | succ n =>
        show Respelled _ (textOf (.parent :: List.replicate (n + 1) .parent))
        rw [textOf_cons (by simp) (by simp [List.replicate_succ])]
        exact .refl _
    | @name n stack hn h =>
      show Respelled (textOf (.normal n :: stack) ++ ['/', '.', '.']) (textOf stack)
      by_cases hnil : stack = []
      · subst hnil
        have hend : Respelled (n.toList ++ ['/', '.', '.'] ++ ['/'])
            (n.toList ++ ['/', '.', '.']) := .slash_end (by simp)
        have hup : Respelled (n.toList ++ ['/', '.', '.'] ++ ['/']) ['.', '/'] := by
          simpa using Respelled.up_start hn []
        rw [textOf_nil]
        exact hend.symm.trans (hup.trans (.slash_end (s := ['.']) (by simp)))
      by_cases hroot : stack = [.root]
      · subst hroot
        rw [textOf_name_root, textOf_root]
        exact respelled_leave [] hn
      · rw [textOf_cons hnil hroot]
        exact (respelled_leave _ hn).trans (.slash_end (textOf_ne_nil h))

theorem text_of_innerComponent? {w : List Char} {c : Component}
    (h : innerComponent? w = some c) : c.text.toList = w := by
  unfold innerComponent? at h
  split at h
  · cases h
  · split at h
    next hw => cases h; exact hw.symm
    next => cases h; exact String.toList_ofList

/-- So is a piece. -/
theorem respelled_piece {stack : List Component} (h : Normalized stack) {w : List Char}
    (hw : '/' ∉ w) :
    Respelled (textOf stack ++ '/' :: w)
      (textOf ((innerComponent? w).toList.foldl pushComponent stack)) := by
  have hend : Respelled (textOf stack ++ ['/']) (textOf stack) := .slash_end (textOf_ne_nil h)
  cases hc : innerComponent? w with
  | some c =>
    rw [← text_of_innerComponent? hc]
    exact respelled_push h (inner_of_innerComponent? hw hc)
  | none =>
    by_cases hidle : w = [] ∨ w = ['.']
    · rcases hidle with rfl | rfl
      · exact hend
      · have hdot : Respelled (textOf stack ++ ['/', '.'] ++ ['/'])
            (textOf stack ++ ['/', '.']) := .slash_end (by simp)
        refine hdot.symm.trans (Respelled.trans ?_ hend)
        simpa using Respelled.dot (textOf stack) []
    · obtain ⟨c, hbusy⟩ := innerComponent?_busy hidle
      rw [hbusy] at hc
      cases hc

/-- All pieces in turn. The pieces that are still to come stand behind a separator, so what
was respelled before is respelled in front of them. -/
theorem respelled_pieces {ws : List (List Char)} (hne : ws ≠ []) (hws : ∀ w ∈ ws, '/' ∉ w)
    {stack : List Component} (h : Normalized stack) :
    Respelled (textOf stack ++ '/' :: Text.joinWith ['/'] ws)
      (textOf ((ws.filterMap innerComponent?).foldl pushComponent stack)) := by
  induction ws generalizing stack with
  | nil => exact absurd rfl hne
  | cons w ws ih =>
    have hpiece := respelled_piece h (hws w List.mem_cons_self)
    have hstack : Normalized ((innerComponent? w).toList.foldl pushComponent stack) := by
      refine normalized_foldl (fun c hc => ?_) h
      exact inner_of_innerComponent? (hws w List.mem_cons_self) (by simpa using hc)
    have hfold : ((w :: ws).filterMap innerComponent?).foldl pushComponent stack =
        (ws.filterMap innerComponent?).foldl pushComponent
          ((innerComponent? w).toList.foldl pushComponent stack) := by
      rw [List.filterMap_cons]
      cases innerComponent? w <;> rfl
    rw [hfold]
    cases ws with
    | nil => exact hpiece
    | cons v ws =>
      have htext : textOf stack ++ '/' :: Text.joinWith ['/'] (w :: v :: ws) =
          (textOf stack ++ '/' :: w) ++ '/' :: Text.joinWith ['/'] (v :: ws) := by
        simp [Text.joinWith]
      rw [htext]
      exact (hpiece.append _).trans
        (ih (by simp) (fun u hu => hws u (List.mem_cons_of_mem _ hu)) hstack)

/-- A path is a spelling of its normal form. -/
theorem respelled_normalize {p : Path} (h : p.text ≠ "") :
    Respelled p.text.toList p.normalize.text.toList := by
  have hnormal : p.normalize.text.toList =
      textOf ((componentsOf p.text.toList).foldl pushComponent []) := rfl
  rw [hnormal]
  by_cases hs : p.text.toList.head? = some '/'
  · obtain ⟨t, ht⟩ := List.head?_eq_some_iff.1 hs
    have hpieces := respelled_pieces (Text.pieces_ne_nil (· == '/') t)
      (fun w => noSlash_of_mem_pieces) .root
    rw [Text.joinWith_pieces] at hpieces
    rw [ht, componentsOf_slash]
    exact (Respelled.slashes [] t).symm.trans hpieces
  · have hpieces := respelled_pieces (Text.pieces_ne_nil (· == '/') p.text.toList)
      (fun w => noSlash_of_mem_pieces) normalized_nil
    rw [Text.joinWith_pieces] at hpieces
    rw [foldl_componentsOf_relative hs]
    exact (Respelled.dot_start (by simpa using h) hs).symm.trans hpieces

/-- Paths are spellings of one directory if and only if they have one normal form. -/
theorem respelled_iff {p q : Path} (hp : p.text ≠ "") (hq : q.text ≠ "") :
    Respelled p.text.toList q.text.toList ↔ p.normalize = q.normalize := by
  refine ⟨normalize_of_respelled, fun h => (respelled_normalize hp).trans ?_⟩
  rw [h]
  exact (respelled_normalize hq).symm

end Path

end Toolchain
