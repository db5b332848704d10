import Toolchain.Proofs.Path.Components

/-!
# Normalization

Resolving keeps a stack whose form never changes: names on the root, or names on some `..`
(`Normalized`). From this follows what a normalized path looks like, and that two of them are
one path only if they are one text.

## Main statements

  * `normalized_resolve` — the components that are left are in normal form.
  * `components_normalize`, `ofComponents_components_normalize` — a normalized path has these
    components, and is written from them.
  * `normalize_normalize` — normalizing twice is normalizing once.
-/

namespace Toolchain

namespace Path

/-! ## The stack -/

/-- The form of a stack, which holds the last component first. -/
inductive Normalized : List Component → Prop
  | root : Normalized [.root]
  | relative (n : Nat) : Normalized (List.replicate n .parent)
  | name {n : String} {stack : List Component} (hn : IsName n) (h : Normalized stack) :
      Normalized (.normal n :: stack)

theorem normalized_nil : Normalized [] := .relative 0

/-- A step keeps the form. -/
theorem normalized_pushComponent {stack : List Component} {c : Component}
    (h : Normalized stack) (hc : Inner c) : Normalized (pushComponent stack c) := by
  cases c with
  | root => exact hc.elim
  | current => exact hc.elim
  | normal n => exact .name hc h
  | parent =>
    cases h with
    | root => exact .root
    | name hn h => exact h
    | relative n =>
      cases n with
      | zero => exact .relative 1
      | succ n => exact .relative (n + 2)

/-- All steps keep the form. -/
theorem normalized_foldl {cs : List Component} (hcs : ∀ c ∈ cs, Inner c)
    {stack : List Component} (h : Normalized stack) :
    Normalized (cs.foldl pushComponent stack) := by
  induction cs generalizing stack with
  | nil => exact h
  | cons c cs ih =>
    exact ih (fun d hd => hcs d (List.mem_cons_of_mem _ hd))
      (normalized_pushComponent h (hcs c List.mem_cons_self))

theorem normalized_resolve (p : Path) : Normalized (resolveComponents p.components).reverse := by
  unfold resolveComponents
  rw [List.reverse_reverse]
  obtain ⟨cs, hcs, he⟩ := componentsOf_eq p.text.toList
  unfold components
  rcases he with he | he | he <;> rw [he]
  · exact normalized_foldl hcs normalized_nil
  · exact normalized_foldl hcs normalized_nil
  · exact normalized_foldl hcs .root

/-- A stack in normal form is built by its own components. -/
theorem foldl_reverse_of_normalized {stack : List Component} (h : Normalized stack) :
    stack.reverse.foldl pushComponent [] = stack := by
  induction h with
  | root => rfl
  | relative n =>
    rw [List.reverse_replicate]
    induction n with
    | zero => rfl
    | succ n ih =>
      rw [List.replicate_succ', List.foldl_append, ih, ← List.replicate_succ']
      cases n <;> rfl
  | name hn h ih =>
    rw [List.reverse_cons, List.foldl_append, ih]
    rfl

/-! ## The text -/

theorem innerComponent?_text {c : Component} (h : Inner c) :
    innerComponent? c.text.toList = some c := by
  cases c with
  | root => exact h.elim
  | current => exact h.elim
  | parent => decide
  | normal n => exact innerComponent?_name h

theorem noSlash_map_text {cs : List Component} (h : ∀ c ∈ cs, Inner c) :
    ∀ w ∈ cs.map fun c => c.text.toList, '/' ∉ w := by
  intro w hw
  obtain ⟨c, hc, rfl⟩ := List.mem_map.1 hw
  have hi := h c hc
  cases c with
  | root => exact hi.elim
  | current => exact hi.elim
  | parent => decide
  | normal n => exact IsName.no_slash hi

theorem filterMap_map_text {cs : List Component} (h : ∀ c ∈ cs, Inner c) :
    (cs.map fun c => c.text.toList).filterMap innerComponent? = cs := by
  induction cs with
  | nil => rfl
  | cons c cs ih =>
    rw [List.map_cons, List.filterMap_cons_some (innerComponent?_text (h c List.mem_cons_self)),
      ih fun d hd => h d (List.mem_cons_of_mem _ hd)]

/-- In normal form there is nothing but the root and components that can stand anywhere. -/
theorem Normalized.reverse_eq {stack : List Component} (h : Normalized stack) :
    ∃ cs, (∀ c ∈ cs, Inner c) ∧ (stack.reverse = cs ∨ stack.reverse = .root :: cs) := by
  induction h with
  | root => exact ⟨[], by simp, .inr rfl⟩
  | relative n =>
    refine ⟨_, fun c hc => ?_, .inl rfl⟩
    rw [List.reverse_replicate] at hc
    rw [List.eq_of_mem_replicate hc]
    trivial
  | @name n stack hn h ih =>
    obtain ⟨cs, hcs, he⟩ := ih
    refine ⟨cs ++ [.normal n], fun c hc => ?_, ?_⟩
    · rcases List.mem_append.1 hc with hc | hc
      · exact hcs c hc
      · rw [List.mem_singleton.1 hc]
        exact hn
    · rw [List.reverse_cons]
      exact he.imp (fun he => by rw [he]) (fun he => by rw [he]; rfl)

theorem toList_joined_text (cs : List Component) :
    (joined "/" (cs.map Component.text)).toList =
      Text.joinWith ['/'] (cs.map fun c => c.text.toList) := by
  rw [toList_joined, List.map_map]
  rfl

theorem components_ofComponents_root {cs : List Component} (h : ∀ c ∈ cs, Inner c) :
    (ofComponents (.root :: cs)).components = .root :: cs := by
  unfold components ofComponents
  rw [String.toList_append, toList_joined_text]
  show componentsOf ('/' :: Text.joinWith ['/'] (cs.map fun c => c.text.toList)) = _
  rw [componentsOf_slash, innerOf_joinWith (noSlash_map_text h), filterMap_map_text h]

theorem components_ofComponents_relative {c : Component} {cs : List Component}
    (h : ∀ d ∈ c :: cs, Inner d) : (ofComponents (c :: cs)).components = c :: cs := by
  have hc : Inner c := h c List.mem_cons_self
  have hi := innerComponent?_text hc
  have hne : c.text.toList ≠ [] ∧ c.text.toList ≠ ['.'] := by
    constructor <;> intro he <;> rw [he] at hi <;> simp [innerComponent?] at hi
  have ht : (ofComponents (c :: cs)).text = joined "/" ((c :: cs).map Component.text) := by
    cases c with
    | root => exact hc.elim
    | _ => rfl
  unfold components
  rw [ht, toList_joined_text, componentsOf_joinWith (by simpa using hne.1) (noSlash_map_text h),
    List.map_cons, ofPieces_cons, if_neg hne.2, hi,
    filterMap_map_text fun d hd => h d (List.mem_cons_of_mem _ hd)]
  rfl

/-- Components in normal form are read back from their text. -/
theorem components_ofComponents {stack : List Component} (h : Normalized stack)
    (hne : stack ≠ []) : (ofComponents stack.reverse).components = stack.reverse := by
  obtain ⟨cs, hcs, he | he⟩ := h.reverse_eq
  · rw [he]
    cases cs with
    | nil => exact absurd (List.reverse_eq_nil_iff.1 he) hne
    | cons c cs => exact components_ofComponents_relative hcs
  · rw [he]
    exact components_ofComponents_root hcs

/-- The components of a normalized path; if none are left, it is the working directory. -/
theorem components_normalize (p : Path) :
    p.normalize.components =
      if resolveComponents p.components = [] then [.current]
      else resolveComponents p.components := by
  have h := normalized_resolve p
  unfold normalize
  split
  next he => rw [he]; decide
  next he =>
    have := components_ofComponents h (by simpa using he)
    rwa [List.reverse_reverse] at this

/-- A normalized path is written from its components. -/
theorem ofComponents_components_normalize (p : Path) :
    ofComponents p.normalize.components = p.normalize := by
  rw [components_normalize]
  split
  next he => unfold normalize; rw [he]; rfl
  · rfl

/-- Normalized paths that are one path are one text. -/
theorem normalize_eq_of_same {p q : Path} (h : p.normalize.same q.normalize = true) :
    p.normalize = q.normalize := by
  rw [← ofComponents_components_normalize p, of_decide_eq_true h,
    ofComponents_components_normalize q]

/-- Components in normal form are not changed by normalizing. -/
theorem normalize_ofComponents {stack : List Component} (h : Normalized stack) :
    (ofComponents stack.reverse).normalize = ofComponents stack.reverse := by
  by_cases hne : stack = []
  · subst hne
    decide
  · unfold normalize resolveComponents
    rw [components_ofComponents h hne, foldl_reverse_of_normalized h]

/-- Normalizing takes nothing away that resolving would use. -/
theorem resolve_components_normalize (p : Path) :
    resolveComponents p.normalize.components = resolveComponents p.components := by
  rw [components_normalize]
  split
  next he => rw [he]; rfl
  next he =>
    have hstack := foldl_reverse_of_normalized (normalized_resolve p)
    rw [List.reverse_reverse] at hstack
    unfold resolveComponents at hstack ⊢
    rw [hstack, List.reverse_reverse]

/-- Normalizing twice is normalizing once. -/
theorem normalize_normalize (p : Path) : p.normalize.normalize = p.normalize :=
  congrArg ofComponents (resolve_components_normalize p)

end Path

end Toolchain
