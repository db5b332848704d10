import Toolchain.Path
import Toolchain.Proofs.Text.Words

/-!
# The components of a text

A separator divides a path: what stands before it has the components it has alone, and what
stands after it gives components of inner pieces only (`innerOf`), where `.` means nothing.
All that is said here about longer texts follows from this one equation.

## Main statements

  * `componentsOf_append_slash` — a separator divides a path.
  * `isName_of_mem_components` — a name in a path is not empty, not a dot or two, and holds no
    separator.
  * `components_parent`, `components_of_no_parent` — the parent has all components but the
    last.
-/

namespace Toolchain

namespace Path

/-! ## Inner pieces -/

/-- The components of a text that stands after a separator. -/
def innerOf (s : List Char) : List Component :=
  (Text.pieces (· == '/') s).filterMap innerComponent?

@[simp] theorem innerOf_nil : innerOf [] = [] := rfl

theorem innerOf_append_slash (s t : List Char) :
    innerOf (s ++ '/' :: t) = innerOf s ++ innerOf t := by
  unfold innerOf
  rw [Text.pieces_append_cons (by decide), List.filterMap_append]

@[simp] theorem innerOf_slash (t : List Char) : innerOf ('/' :: t) = innerOf t := by
  have h := innerOf_append_slash [] t
  rwa [List.nil_append, innerOf_nil, List.nil_append] at h

/-! ## Names -/

/-- A text that a path can have as a name. -/
structure IsName (name : String) : Prop where
  ne_nil : name.toList ≠ []
  ne_current : name.toList ≠ ['.']
  ne_parent : name.toList ≠ ['.', '.']
  no_slash : '/' ∉ name.toList

instance (name : String) : Decidable (IsName name) :=
  decidable_of_iff
    (name.toList ≠ [] ∧ name.toList ≠ ['.'] ∧ name.toList ≠ ['.', '.'] ∧ '/' ∉ name.toList)
    ⟨fun ⟨hn, hc, hp, hs⟩ => ⟨hn, hc, hp, hs⟩, fun ⟨hn, hc, hp, hs⟩ => ⟨hn, hc, hp, hs⟩⟩

theorem innerComponent?_name {name : String} (h : IsName name) :
    innerComponent? name.toList = some (.normal name) := by
  unfold innerComponent?
  rw [if_neg (by simp [h.ne_nil, h.ne_current]), if_neg h.ne_parent, String.ofList_toList]

theorem innerOf_name {name : String} (h : IsName name) :
    innerOf name.toList = [.normal name] := by
  have hp : Text.pieces (· == '/') name.toList = [name.toList] := by
    apply Text.pieces_eq_singleton
    intro c hc
    simp only [beq_eq_false_iff_ne]
    rintro rfl
    exact h.no_slash hc
  unfold innerOf
  rw [hp]
  simp [innerComponent?_name h]

/-- A component that can stand anywhere in a path. -/
def Inner : Component → Prop
  | .parent => True
  | .normal name => IsName name
  | _ => False

theorem inner_of_innerComponent? {piece : List Char} {c : Component} (hs : '/' ∉ piece)
    (h : innerComponent? piece = some c) : Inner c := by
  unfold innerComponent? at h
  split at h
  · cases h
  next h1 =>
    split at h
    next => cases h; exact trivial
    next h2 =>
      cases h
      rw [not_or] at h1
      exact
        { ne_nil := by rw [String.toList_ofList]; exact h1.1
          ne_current := by rw [String.toList_ofList]; exact h1.2
          ne_parent := by rw [String.toList_ofList]; exact h2
          no_slash := by rw [String.toList_ofList]; exact hs }

theorem noSlash_of_mem_pieces {s w : List Char} (h : w ∈ Text.pieces (· == '/') s) : '/' ∉ w := by
  intro hs
  have := Text.not_mem_of_mem_pieces h _ hs
  simp at this

theorem inner_of_mem_innerOf {s : List Char} {c : Component} (h : c ∈ innerOf s) : Inner c := by
  obtain ⟨piece, hm, he⟩ := List.mem_filterMap.1 h
  exact inner_of_innerComponent? (noSlash_of_mem_pieces hm) he

/-! ## The whole text -/

/-- The components of a relative path, from its pieces. -/
def ofPieces : List (List Char) → List Component
  | [] => []
  | first :: rest =>
    (if first = ['.'] then [.current] else (innerComponent? first).toList) ++
      rest.filterMap innerComponent?

theorem ofPieces_cons (w : List Char) (ws : List (List Char)) :
    ofPieces (w :: ws) =
      (if w = ['.'] then [.current] else (innerComponent? w).toList) ++
        ws.filterMap innerComponent? := rfl

theorem ofPieces_append {ws : List (List Char)} (h : ws ≠ []) (vs : List (List Char)) :
    ofPieces (ws ++ vs) = ofPieces ws ++ vs.filterMap innerComponent? := by
  cases ws with
  | nil => exact absurd rfl h
  | cons w ws =>
    rw [List.cons_append, ofPieces_cons, ofPieces_cons, List.filterMap_append, List.append_assoc]

/-- A first piece differs from an inner one only where it is `.`. -/
theorem ofPieces_eq (ws : List (List Char)) :
    ofPieces ws = ws.filterMap innerComponent? ∨
      ofPieces ws = .current :: ws.filterMap innerComponent? := by
  cases ws with
  | nil => exact .inl rfl
  | cons w ws =>
    rw [ofPieces_cons, List.filterMap_cons]
    by_cases hw : w = ['.']
    · rw [if_pos hw, hw]
      exact .inr rfl
    · rw [if_neg hw]
      refine .inl ?_
      cases innerComponent? w <;> rfl

theorem componentsOf_slash (t : List Char) : componentsOf ('/' :: t) = .root :: innerOf t := rfl

theorem componentsOf_relative {s : List Char} (h : s.head? ≠ some '/') :
    componentsOf s = ofPieces (Text.pieces (· == '/') s) := by
  unfold componentsOf
  split
  next he => exact absurd he (Text.pieces_ne_nil _ s)
  next first rest he =>
    rw [if_neg h, he, ofPieces_cons]
    split <;> rfl

/-- A separator divides a path. -/
theorem componentsOf_append_slash {s : List Char} (hs : s ≠ []) (t : List Char) :
    componentsOf (s ++ '/' :: t) = componentsOf s ++ innerOf t := by
  cases s with
  | nil => exact absurd rfl hs
  | cons c cs =>
    by_cases hc : c = '/'
    · subst hc
      rw [List.cons_append, componentsOf_slash, componentsOf_slash, innerOf_append_slash]
      rfl
    · rw [componentsOf_relative (by simpa using hc), Text.pieces_append_cons (by decide),
        ofPieces_append (Text.pieces_ne_nil _ _), componentsOf_relative (by simpa using hc)]
      rfl

/-- A path is components that can stand anywhere, perhaps after the root or a `.`. -/
theorem componentsOf_eq (s : List Char) :
    ∃ cs, (∀ c ∈ cs, Inner c) ∧
      (componentsOf s = cs ∨ componentsOf s = .current :: cs ∨ componentsOf s = .root :: cs) := by
  by_cases hs : s.head? = some '/'
  · obtain ⟨t, rfl⟩ := List.head?_eq_some_iff.1 hs
    exact ⟨innerOf t, fun c => inner_of_mem_innerOf, .inr (.inr (componentsOf_slash t))⟩
  · refine ⟨innerOf s, fun c => inner_of_mem_innerOf, ?_⟩
    rw [componentsOf_relative hs]
    exact (ofPieces_eq _).imp_right .inl

theorem isName_of_mem_components {p : Path} {name : String}
    (h : Component.normal name ∈ p.components) : IsName name := by
  obtain ⟨cs, hcs, he⟩ := componentsOf_eq p.text.toList
  have hm : Component.normal name ∈ cs := by
    unfold components at h
    rcases he with he | he | he <;> rw [he] at h
    · exact h
    · exact (List.mem_cons.1 h).resolve_left (by simp)
    · exact (List.mem_cons.1 h).resolve_left (by simp)
  exact hcs _ hm

/-! ## The parent -/

theorem innerComponent?_idle {w : List Char} (h : w = [] ∨ w = ['.']) :
    innerComponent? w = none := if_pos h

theorem innerComponent?_busy {w : List Char} (h : ¬(w = [] ∨ w = ['.'])) :
    ∃ c, innerComponent? w = some c := by
  unfold innerComponent?
  rw [if_neg h]
  split <;> exact ⟨_, rfl⟩

/-- The pieces that are dropped at the end have no components. -/
theorem filterMap_dropIdle (ws : List (List Char)) :
    (dropIdle ws).reverse.filterMap innerComponent? = ws.reverse.filterMap innerComponent? := by
  induction ws with
  | nil => rfl
  | cons w ws ih =>
    unfold dropIdle at ih ⊢
    rw [List.dropWhile_cons]
    split
    next h =>
      have hw : innerComponent? w = none := innerComponent?_idle (by simpa using h)
      rw [ih, List.reverse_cons, List.filterMap_append]
      simp [hw]
    · rfl

theorem dropIdle_cons {ws vs : List (List Char)} {w : List Char} (h : dropIdle ws = w :: vs) :
    ∃ c, innerComponent? w = some c := by
  have := List.head?_dropWhile_not (fun w => decide (w = [] ∨ w = ['.'])) ws
  unfold dropIdle at h
  rw [h] at this
  exact innerComponent?_busy (by simpa using this)

theorem ofPieces_dropIdleRelative (ws : List (List Char)) :
    ofPieces (dropIdleRelative ws).reverse = ofPieces ws.reverse := by
  fun_induction dropIdleRelative ws with
  | case1 => rfl
  | case2 => rfl
  | case3 w h => rfl
  | case4 w v ws h ih =>
    have hw : innerComponent? w = none := innerComponent?_idle h
    rw [ih, List.reverse_cons (a := w), ofPieces_append (by simp)]
    simp [hw]
  | case5 => rfl

/-- What is left is empty, or the first piece alone, or more pieces with a component at the
end. -/
theorem dropIdleRelative_cons {ws vs : List (List Char)} {w : List Char}
    (h : dropIdleRelative ws = w :: vs) :
    (vs = [] ∧ w ≠ []) ∨ (vs ≠ [] ∧ ∃ c, innerComponent? w = some c) := by
  fun_induction dropIdleRelative ws with
  | case1 => cases h
  | case2 => cases h
  | case3 u hu => cases h; exact .inl ⟨rfl, hu⟩
  | case4 u v us hu ih => exact ih h
  | case5 u v us hu => cases h; exact .inr ⟨by simp, innerComponent?_busy hu⟩

theorem dropIdleRelative_suffix (ws : List (List Char)) : dropIdleRelative ws <:+ ws := by
  fun_induction dropIdleRelative ws with
  | case1 => exact List.suffix_rfl
  | case2 => exact List.nil_suffix
  | case3 => exact List.suffix_rfl
  | case4 w v ws h ih => exact ih.trans (List.suffix_cons ..)
  | case5 => exact List.suffix_rfl

theorem pieces_joinWith_slash {ws : List (List Char)} (hn : ws ≠ []) (h : ∀ w ∈ ws, '/' ∉ w) :
    Text.pieces (· == '/') (Text.joinWith ['/'] ws) = ws := by
  refine Text.pieces_joinWith (by decide) hn fun w hw c hc => ?_
  simp only [beq_eq_false_iff_ne]
  rintro rfl
  exact h w hw hc

theorem innerOf_joinWith {ws : List (List Char)} (h : ∀ w ∈ ws, '/' ∉ w) :
    innerOf (Text.joinWith ['/'] ws) = ws.filterMap innerComponent? := by
  by_cases hn : ws = []
  · subst hn; rfl
  · unfold innerOf
    rw [pieces_joinWith_slash hn h]

/-- Pieces that begin with a piece that is not empty are a relative path. -/
theorem componentsOf_joinWith {ws : List (List Char)} (hfirst : ws.head? ≠ some [])
    (h : ∀ w ∈ ws, '/' ∉ w) : componentsOf (Text.joinWith ['/'] ws) = ofPieces ws := by
  by_cases hn : ws = []
  · subst hn; rfl
  · have hhead : (Text.joinWith ['/'] ws).head? ≠ some '/' := by
      match ws, hn with
      | (c :: cs) :: rest, _ =>
        have hc : c ≠ '/' := by
          rintro rfl
          exact h _ List.mem_cons_self List.mem_cons_self
        cases rest <;> simpa [Text.joinWith] using hc
      | [] :: rest, _ => exact absurd rfl hfirst
    rw [componentsOf_relative hhead, pieces_joinWith_slash hn h]

theorem head_pieces_ne_nil {s : List Char} (hs : s ≠ []) (h : s.head? ≠ some '/') :
    (Text.pieces (· == '/') s).head? ≠ some [] := by
  cases s with
  | nil => exact absurd rfl hs
  | cons c cs =>
    have hc : (c == '/') = false := by simpa using h
    unfold Text.pieces
    rw [hc]
    cases Text.pieces (· == '/') cs <;> simp [Text.consFirst]

/-- What the parent of an absolute path is made of. -/
theorem innerOf_of_dropIdle {t w : List Char} {ws : List (List Char)}
    (h : dropIdle (Text.pieces (· == '/') t).reverse = w :: ws) :
    ∃ c, innerOf t = innerOf (Text.joinWith ['/'] (dropIdle ws).reverse) ++ [c] := by
  obtain ⟨c, hc⟩ := dropIdle_cons h
  refine ⟨c, ?_⟩
  have hsub : w :: ws <:+ (Text.pieces (· == '/') t).reverse := h ▸ List.dropWhile_suffix _
  have hmem : ∀ v ∈ (dropIdle ws).reverse, '/' ∉ v := by
    intro v hv
    have hws : v ∈ ws := (List.dropWhile_suffix _).subset (List.mem_reverse.1 hv)
    exact noSlash_of_mem_pieces
      (List.mem_reverse.1 (hsub.subset (List.mem_cons_of_mem _ hws)))
  calc
    innerOf t = (Text.pieces (· == '/') t).reverse.reverse.filterMap innerComponent? := by
      rw [List.reverse_reverse]; rfl
    _ = (w :: ws).reverse.filterMap innerComponent? := by rw [← h, filterMap_dropIdle]
    _ = ws.reverse.filterMap innerComponent? ++ [c] := by
      rw [List.reverse_cons, List.filterMap_append]
      simp [hc]
    _ = innerOf (Text.joinWith ['/'] (dropIdle ws).reverse) ++ [c] := by
      rw [innerOf_joinWith hmem, filterMap_dropIdle]

/-- What the parent of a relative path is made of. -/
theorem componentsOf_of_dropIdleRelative {s w : List Char} {ws : List (List Char)}
    (hs : s.head? ≠ some '/')
    (h : dropIdleRelative (Text.pieces (· == '/') s).reverse = w :: ws) :
    ∃ c, componentsOf s =
      componentsOf (Text.joinWith ['/'] (dropIdleRelative ws).reverse) ++ [c] := by
  have hsub : w :: ws <:+ (Text.pieces (· == '/') s).reverse := h ▸ dropIdleRelative_suffix _
  have hleft : (dropIdleRelative ws).reverse <+: Text.pieces (· == '/') s := by
    rw [← List.reverse_suffix, List.reverse_reverse]
    exact (dropIdleRelative_suffix ws).trans ((List.suffix_cons w ws).trans hsub)
  -- the first piece stays where it is, and it is not empty
  have hfirst : (dropIdleRelative ws).reverse.head? ≠ some [] := by
    intro he
    have hne : s ≠ [] := by rintro rfl; cases h
    obtain ⟨rest, hrest⟩ := hleft
    refine head_pieces_ne_nil hne hs ?_
    rw [← hrest, List.head?_append, he]
    rfl
  rw [componentsOf_joinWith hfirst fun v hv => noSlash_of_mem_pieces (hleft.subset hv),
    ofPieces_dropIdleRelative, componentsOf_relative hs]
  rw [← List.reverse_reverse (Text.pieces (· == '/') s), ← ofPieces_dropIdleRelative, h,
    List.reverse_cons]
  rcases dropIdleRelative_cons h with ⟨rfl, hw⟩ | ⟨hws, c, hc⟩
  · by_cases hd : w = ['.']
    · exact ⟨.current, by subst hd; rfl⟩
    · obtain ⟨c, hc⟩ := innerComponent?_busy (not_or.2 ⟨hw, hd⟩)
      exact ⟨c, by simp [ofPieces, hd, hc]⟩
  · refine ⟨c, ?_⟩
    rw [ofPieces_append (by simpa using hws)]
    simp [hc]

theorem parent?_absolute {p : Path} {t : List Char} (h : p.text.toList = '/' :: t) :
    p.parent? =
      match dropIdle (Text.pieces (· == '/') t).reverse with
      | [] => none
      | _ :: rest =>
        some ⟨String.ofList ('/' :: Text.joinWith ['/'] (dropIdle rest).reverse)⟩ := by
  have ha : p.isAbsolute = true := by
    unfold isAbsolute
    rw [h]
    rfl
  have hpieces : (Text.pieces (· == '/') p.text.toList).reverse.dropLast =
      (Text.pieces (· == '/') t).reverse := by
    rw [h]
    show ([] :: Text.pieces (· == '/') t).reverse.dropLast = _
    rw [List.reverse_cons, List.dropLast_concat]
  unfold parent?
  rw [if_pos ha]
  exact hpieces ▸ rfl

theorem parent?_relative {p : Path} (h : p.text.toList.head? ≠ some '/') :
    p.parent? =
      match dropIdleRelative (Text.pieces (· == '/') p.text.toList).reverse with
      | [] => none
      | _ :: rest =>
        some ⟨String.ofList (Text.joinWith ['/'] (dropIdleRelative rest).reverse)⟩ := by
  have ha : ¬p.isAbsolute = true := by
    unfold isAbsolute
    simpa using h
  unfold parent?
  exact if_neg ha

/-- The parent has all components but the last, and there is a last one. -/
theorem components_parent {p q : Path} (h : p.parent? = some q) :
    ∃ c, p.components = q.components ++ [c] := by
  unfold components
  by_cases ha : p.text.toList.head? = some '/'
  · obtain ⟨t, ht⟩ := List.head?_eq_some_iff.1 ha
    rw [parent?_absolute ht] at h
    split at h
    · cases h
    next w ws he =>
      cases h
      obtain ⟨c, hc⟩ := innerOf_of_dropIdle he
      refine ⟨c, ?_⟩
      rw [ht, String.toList_ofList, componentsOf_slash, componentsOf_slash, hc]
      rfl
  · rw [parent?_relative ha] at h
    split at h
    · cases h
    next w ws he =>
      cases h
      rw [String.toList_ofList]
      exact componentsOf_of_dropIdleRelative ha he

/-- Only the empty path and the root have no parent. -/
theorem components_of_no_parent {p : Path} (h : p.parent? = none) :
    p.components = [] ∨ p.components = [.root] := by
  unfold components
  by_cases ha : p.text.toList.head? = some '/'
  · obtain ⟨t, ht⟩ := List.head?_eq_some_iff.1 ha
    rw [parent?_absolute ht] at h
    split at h
    next he =>
      have hi := filterMap_dropIdle (Text.pieces (· == '/') t).reverse
      rw [he, List.reverse_reverse] at hi
      rw [ht]
      exact .inr (congrArg _ hi.symm)
    · cases h
  · rw [parent?_relative ha] at h
    split at h
    next he =>
      have hi := ofPieces_dropIdleRelative (Text.pieces (· == '/') p.text.toList).reverse
      rw [he, List.reverse_reverse, ← componentsOf_relative ha] at hi
      exact .inl hi.symm
    · cases h

/-- The name of a file is the last component. -/
theorem fileName?_eq_some {p : Path} {name : String} :
    p.fileName? = some name ↔ ∃ cs, p.components = cs ++ [.normal name] := by
  rw [← List.getLast?_eq_some_iff]
  unfold fileName?
  split
  next n he => simp [he]
  next hn => exact ⟨fun h => (nomatch h), fun h => absurd h (hn name)⟩

end Path

end Toolchain
