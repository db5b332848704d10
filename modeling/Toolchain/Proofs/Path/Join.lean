import Toolchain.Proofs.Path.NormalForm

/-!
# Joins

A relative path that is joined to another one adds its inner components behind those of the
first. So a join is resolved by going on with the stack that the first path has left
(`resolve_join`), and it makes no difference whether the first path was normalized before.

## Main statements

  * `isAbsolute_normalize` — normalizing keeps the root, and adds none.
  * `resolve_join` — how a join is resolved.
  * `normalize_join` — a join is normalized part by part.
  * `normalize_climb` — a leading `..` stays in front of what the rest is resolved to.
  * `normalize_canonical` — normal forms, and how they go along with joins.
-/

namespace Toolchain

namespace Path

/-! ## Absolute paths -/

theorem isAbsolute_iff_head {p : Path} :
    p.isAbsolute = true ↔ p.text.toList.head? = some '/' := by
  unfold isAbsolute
  exact beq_iff_eq

/-- A path is absolute if the root is one of its components. -/
theorem isAbsolute_iff {p : Path} : p.isAbsolute = true ↔ Component.root ∈ p.components := by
  rw [isAbsolute_iff_head]
  unfold components
  constructor
  · intro h
    obtain ⟨t, ht⟩ := List.head?_eq_some_iff.1 h
    rw [ht, componentsOf_slash]
    exact List.mem_cons_self
  · intro h
    by_cases habsolute : p.text.toList.head? = some '/'
    · exact habsolute
    · exfalso
      have hinner : Component.root ∉ innerOf p.text.toList := fun hc => inner_of_mem_innerOf hc
      rw [componentsOf_relative habsolute] at h
      rcases ofPieces_eq (Text.pieces (· == '/') p.text.toList) with he | he
      · rw [he] at h
        exact hinner h
      · rw [he] at h
        exact hinner ((List.mem_cons.1 h).resolve_left (by simp))

theorem root_mem_pushComponent {stack : List Component} {c : Component} (hc : Inner c) :
    Component.root ∈ pushComponent stack c ↔ Component.root ∈ stack := by
  cases c with
  | root => exact hc.elim
  | current => exact hc.elim
  | normal n => simp [pushComponent]
  | parent =>
    cases stack with
    | nil => simp [pushComponent]
    | cons d rest => cases d <;> simp [pushComponent]

/-- No step adds the root or takes it away. -/
theorem root_mem_foldl {cs : List Component} (hcs : ∀ c ∈ cs, Inner c) (stack : List Component) :
    Component.root ∈ cs.foldl pushComponent stack ↔ Component.root ∈ stack := by
  induction cs generalizing stack with
  | nil => rfl
  | cons c cs ih =>
    have hrest := ih (fun d hd => hcs d (List.mem_cons_of_mem c hd)) (pushComponent stack c)
    exact hrest.trans (root_mem_pushComponent (hcs c List.mem_cons_self))

theorem root_mem_resolve (p : Path) :
    Component.root ∈ resolveComponents p.components ↔ Component.root ∈ p.components := by
  unfold resolveComponents components
  rw [List.mem_reverse]
  obtain ⟨cs, hcs, hcases⟩ := componentsOf_eq p.text.toList
  have hroot : Component.root ∉ cs := fun h => hcs _ h
  rcases hcases with he | he | he <;> rw [he]
  · simp [root_mem_foldl hcs, hroot]
  · show Component.root ∈ cs.foldl pushComponent [] ↔ _
    simp [root_mem_foldl hcs, hroot]
  · show Component.root ∈ cs.foldl pushComponent [.root] ↔ _
    simp [root_mem_foldl hcs]

/-- Normalizing keeps the root, and adds none. -/
theorem isAbsolute_normalize (p : Path) : p.normalize.isAbsolute = p.isAbsolute := by
  have hroot : Component.root ∈ p.normalize.components ↔ Component.root ∈ p.components := by
    rw [← root_mem_resolve p, components_normalize]
    split
    next he => simp [he]
    next => rfl
  rw [Bool.eq_iff_iff, isAbsolute_iff, isAbsolute_iff, hroot]

/-- The working directory is the normal form of the paths that leave no component. -/
theorem normalize_eq_current_iff {p : Path} :
    p.normalize = ⟨"."⟩ ↔ resolveComponents p.components = [] := by
  constructor
  · intro h
    rw [← resolve_components_normalize, h]
    decide
  · intro h
    unfold normalize
    rw [h]
    rfl

/-! ## Joins -/

theorem join_of_absolute {q : Path} (h : q.isAbsolute = true) (p : Path) : p.join q = q :=
  if_pos h

/-- A relative path adds its inner components. -/
theorem components_join {p q : Path} (hp : p.text ≠ "") (hq : ¬ q.isAbsolute = true) :
    (p.join q).components = p.components ++ innerOf q.text.toList := by
  have hne : p.text.toList ≠ [] := by simpa using hp
  unfold join
  rw [if_neg hq, if_neg hp]
  unfold components
  split
  next hlast =>
    -- the separator between them is the one at the end of the first path
    obtain ⟨s, hs⟩ := List.getLast?_eq_some_iff.1 hlast
    have htext : (p.text ++ q.text).toList = s ++ '/' :: q.text.toList := by
      rw [String.toList_append, hs]
      simp
    rw [htext, hs, componentsOf_eq_upTo, componentsOf_eq_upTo, innerOf_nil, List.append_nil]
  next =>
    have htext : (p.text ++ "/" ++ q.text).toList = p.text.toList ++ '/' :: q.text.toList := by
      rw [String.toList_append, String.toList_append]
      simp
    rw [htext, componentsOf_append_slash hne]

/-- A join is resolved by going on with the stack that the first path has left. -/
theorem resolve_join (p : Path) {q : Path} (hq : ¬ q.isAbsolute = true) :
    resolveComponents (p.join q).components =
      ((innerOf q.text.toList).foldl pushComponent
        (resolveComponents p.components).reverse).reverse := by
  unfold resolveComponents
  rw [List.reverse_reverse]
  by_cases hp : p.text = ""
  · have hjoin : p.join q = q := by
      unfold join
      rw [if_neg hq, if_pos hp]
    have hcomponents : p.components = [] := by
      unfold components
      rw [hp]
      rfl
    rw [hjoin, hcomponents]
    unfold components
    rw [foldl_componentsOf_relative fun h => hq (isAbsolute_iff_head.2 h)]
    rfl
  · rw [components_join hp hq, List.foldl_append]

/-- A join is normalized part by part. -/
theorem normalize_join (p q : Path) : (p.join q).normalize = (p.normalize.join q).normalize := by
  by_cases hq : q.isAbsolute = true
  · rw [join_of_absolute hq, join_of_absolute hq]
  · unfold normalize
    rw [resolve_join p hq]
    show _ = ofComponents (resolveComponents (p.normalize.join q).components)
    rw [resolve_join p.normalize hq, resolve_components_normalize]

/-! ## A leading `..` -/

/-- A `..` at the bottom of the stack stays there. -/
theorem pushComponent_concat_parent {stack : List Component} (hstack : Component.root ∉ stack)
    {c : Component} (hc : Inner c) :
    pushComponent (stack ++ [.parent]) c = pushComponent stack c ++ [.parent] := by
  cases c with
  | root => exact hc.elim
  | current => exact hc.elim
  | normal n => rfl
  | parent =>
    cases stack with
    | nil => rfl
    | cons d rest =>
      cases d with
      | root => exact absurd List.mem_cons_self hstack
      | current => rfl
      | parent => rfl
      | normal n => rfl

theorem foldl_concat_parent {cs : List Component} (hcs : ∀ c ∈ cs, Inner c)
    {stack : List Component} (hstack : Component.root ∉ stack) :
    cs.foldl pushComponent (stack ++ [.parent]) =
      cs.foldl pushComponent stack ++ [.parent] := by
  induction cs generalizing stack with
  | nil => rfl
  | cons c cs ih =>
    have hc : Inner c := hcs c List.mem_cons_self
    have hpushed : Component.root ∉ pushComponent stack c := by
      rwa [root_mem_pushComponent hc]
    rw [List.foldl_cons, pushComponent_concat_parent hstack hc]
    exact ih (fun d hd => hcs d (List.mem_cons_of_mem c hd)) hpushed

/-- A relative path behind a `..` is resolved on its own, and the `..` stays in front. -/
theorem resolve_climb {q : Path} (hq : ¬ q.isAbsolute = true) :
    resolveComponents ((Path.mk "..").join q).components =
      .parent :: resolveComponents q.components := by
  have hstack : (resolveComponents (Path.mk "..").components).reverse = [] ++ [.parent] := by
    decide
  rw [resolve_join _ hq, hstack, foldl_concat_parent (fun c => inner_of_mem_innerOf) (by simp),
    List.reverse_append]
  unfold resolveComponents components
  rw [foldl_componentsOf_relative fun h => hq (isAbsolute_iff_head.2 h)]
  rfl

/-- A leading `..` stays in front of what the rest is resolved to. -/
theorem normalize_climb (q : Path) :
    ((Path.mk "..").join q).normalize =
      if q.normalize = ⟨"."⟩ then ⟨".."⟩ else (Path.mk "..").join q.normalize := by
  by_cases hq : q.isAbsolute = true
  · have hnormal : q.normalize.isAbsolute = true := by rw [isAbsolute_normalize, hq]
    have hne : q.normalize ≠ ⟨"."⟩ := by
      intro h
      rw [h] at hnormal
      cases hnormal
    rw [join_of_absolute hq, if_neg hne, join_of_absolute hnormal]
  · have hnormal : ¬ q.normalize.isAbsolute = true := by rwa [isAbsolute_normalize]
    have hclimb : ((Path.mk "..").join q).normalize =
        ofComponents (.parent :: resolveComponents q.components) := by
      unfold normalize
      rw [resolve_climb hq]
    rw [hclimb]
    split
    next h =>
      rw [normalize_eq_current_iff.1 h]
      rfl
    next h =>
      -- something is left of `q`, and it is not the root, so it is written behind the `..`
      have hroot : Component.root ∉ resolveComponents q.components := by
        rwa [root_mem_resolve, ← isAbsolute_iff]
      have hne : resolveComponents q.components ≠ [] := fun he => h (normalize_eq_current_iff.2 he)
      have hjoin : (Path.mk "..").join q.normalize = ⟨".." ++ "/" ++ q.normalize.text⟩ := by
        unfold join
        rw [if_neg hnormal, if_neg (by decide), if_neg (by decide)]
      rw [hjoin]
      unfold normalize
      match hcs : resolveComponents q.components with
      | [] => exact absurd hcs hne
      | .root :: cs => rw [hcs] at hroot; exact absurd List.mem_cons_self hroot
      | .current :: cs => rfl
      | .parent :: cs => rfl
      | .normal n :: cs => rfl

/-! ## The whole -/

/-- Normalizing gives a path in which nothing is left to resolve, on the root if the path was;
it leaves exactly these paths alone. A join is normalized part by part, so normalizing twice
is normalizing once, `..` on the root is the root, and a leading `..` of a relative path
stays in front of what the rest is resolved to. -/
theorem normalize_canonical (p q : Path) :
    (p.normalize.text ≠ "" ∧ p.normalize.isAbsolute = p.isAbsolute ∧ Resolved p.normalize ∧
      Tidy p.normalize) ∧
    (Resolved p ↔ p.normalize = p) ∧
    (p.join q).normalize = (p.normalize.join q).normalize ∧
    p.normalize.normalize = p.normalize ∧
    ((Path.mk "/..").join q).normalize = ((Path.mk "/").join q).normalize ∧
    ((Path.mk "..").join q).normalize =
      if q.normalize = ⟨"."⟩ then ⟨".."⟩ else (Path.mk "..").join q.normalize := by
  have hresolved : Resolved p.normalize := resolved_iff.2 (normalize_normalize p)
  have hne : p.normalize.text ≠ "" := hresolved.text_ne
  have hroot : (Path.mk "/..").normalize = ⟨"/"⟩ := by decide
  refine ⟨⟨hne, isAbsolute_normalize p, hresolved, hresolved.tidy⟩, resolved_iff,
    normalize_join p q, normalize_normalize p, ?_, normalize_climb q⟩
  rw [normalize_join, hroot]

/-- Climbing above the beginning of a relative path, and not above the root. -/
example :
    ((Path.mk "a/./..//").join ⟨"../b/../../c/."⟩).normalize = ⟨"../../c"⟩ ∧
      ((Path.mk "/a/../..").join ⟨"../b//"⟩).normalize = ⟨"/b"⟩ := by decide

end Path

end Toolchain
