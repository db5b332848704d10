import Toolchain.Proofs.Path.Spelling

/-!
# The shape of a normal form

A path in normal form has one of three shapes (`Resolved`), and these are exactly the paths
that normalizing leaves alone. They are written from the stacks that the steps of normalizing
leave, read from the bottom: the root or some `..`, and then names.

  * `Resolved` — the working directory, names on the root, or some `..` and names.
  * `Tidy` — what cannot be seen in such a path: an idle component, a `..` after a name, or a
    separator without a name behind it.

## Main statements

  * `resolved_iff` — the paths in which nothing is left to resolve are the normal forms.
  * `Resolved.tidy` — they are tidy.
-/

namespace Toolchain

namespace Path

/-! ## The shape -/

/-- A path in which nothing is left to resolve. -/
inductive Resolved : Path → Prop
  /-- The working directory. -/
  | here : Resolved ⟨"."⟩
  /-- The root, and names on it. -/
  | absolute {names : List String} (hnames : ∀ n ∈ names, IsName n) :
      Resolved ⟨"/" ++ joined "/" names⟩
  /-- Some `..`, and names behind them. -/
  | relative {ups : Nat} {names : List String} (hnames : ∀ n ∈ names, IsName n)
      (hne : List.replicate ups ".." ++ names ≠ []) :
      Resolved ⟨joined "/" (List.replicate ups ".." ++ names)⟩

/-- The components of some `..` and names behind them. -/
def upsAndNames (ups : Nat) (names : List String) : List Component :=
  List.replicate ups .parent ++ names.map .normal

theorem map_text_upsAndNames (ups : Nat) (names : List String) :
    (upsAndNames ups names).map Component.text = List.replicate ups ".." ++ names := by
  have hnames : (names.map Component.normal).map Component.text = names := by
    rw [List.map_map]
    exact List.map_id names
  rw [upsAndNames, List.map_append, List.map_replicate, hnames]
  rfl

theorem inner_of_mem_upsAndNames {ups : Nat} {names : List String}
    (hnames : ∀ n ∈ names, IsName n) : ∀ c ∈ upsAndNames ups names, Inner c := by
  intro c hc
  rcases List.mem_append.1 hc with hc | hc
  · rw [List.eq_of_mem_replicate hc]
    trivial
  · obtain ⟨n, hn, rfl⟩ := List.mem_map.1 hc
    exact hnames n hn

/-- A stack in normal form, read from its bottom. -/
theorem Normalized.reverse_cases {stack : List Component} (h : Normalized stack) :
    ∃ names, (∀ n ∈ names, IsName n) ∧
      (stack.reverse = .root :: upsAndNames 0 names ∨
        ∃ ups, stack.reverse = upsAndNames ups names) := by
  induction h with
  | root => exact ⟨[], by simp, .inl rfl⟩
  | relative ups =>
    refine ⟨[], by simp, .inr ⟨ups, ?_⟩⟩
    rw [List.reverse_replicate]
    exact (List.append_nil _).symm
  | @name n stack hn h ih =>
    -- a name on top of the stack is the last one from the bottom
    obtain ⟨names, hnames, hcases⟩ := ih
    have hconcat (ups : Nat) :
        upsAndNames ups names ++ [.normal n] = upsAndNames ups (names ++ [n]) := by
      simp [upsAndNames]
    refine ⟨names ++ [n], ?_, ?_⟩
    · intro m hm
      rcases List.mem_append.1 hm with hm | hm
      · exact hnames m hm
      · rw [List.mem_singleton.1 hm]
        exact hn
    · rw [List.reverse_cons]
      rcases hcases with hroot | ⟨ups, hups⟩
      · left
        rw [hroot, List.cons_append, hconcat]
      · right
        exact ⟨ups, by rw [hups, hconcat]⟩

/-- Names can be put on any stack in normal form. -/
theorem Normalized.names {stack : List Component} (h : Normalized stack) {names : List String}
    (hnames : ∀ n ∈ names, IsName n) :
    Normalized ((names.map Component.normal).reverse ++ stack) := by
  induction names generalizing stack with
  | nil => exact h
  | cons n names ih =>
    have hn : IsName n := hnames n List.mem_cons_self
    have hrest := ih (Normalized.name hn h) fun m hm => hnames m (List.mem_cons_of_mem n hm)
    simpa using hrest

theorem ofComponents_root (names : List String) :
    ofComponents (.root :: upsAndNames 0 names) = ⟨"/" ++ joined "/" names⟩ := by
  show (⟨"/" ++ joined "/" ((upsAndNames 0 names).map Component.text)⟩ : Path) = _
  rw [map_text_upsAndNames]
  rfl

theorem ofComponents_upsAndNames {ups : Nat} {names : List String}
    (hne : List.replicate ups ".." ++ names ≠ []) :
    ofComponents (upsAndNames ups names) =
      ⟨joined "/" (List.replicate ups ".." ++ names)⟩ := by
  rw [← map_text_upsAndNames] at hne ⊢
  unfold ofComponents
  split
  next h => rw [h] at hne; exact absurd rfl hne
  next rest h =>
    -- the root is neither `..` nor a name
    have hroot : Component.root ∈ upsAndNames ups names := by rw [h]; exact List.mem_cons_self
    simp [upsAndNames] at hroot
  next => rfl

/-- The paths in which nothing is left to resolve are written from stacks in normal form. -/
theorem resolved_iff_exists {p : Path} :
    Resolved p ↔ ∃ stack, Normalized stack ∧ p = ofComponents stack.reverse := by
  constructor
  · intro h
    cases h with
    | here => exact ⟨[], normalized_nil, by decide⟩
    | @absolute names hnames =>
      refine ⟨_, Normalized.root.names hnames, ?_⟩
      rw [← ofComponents_root]
      simp [upsAndNames]
    | @relative ups names hnames hne =>
      refine ⟨_, (Normalized.relative ups).names hnames, ?_⟩
      rw [← ofComponents_upsAndNames hne]
      simp [upsAndNames]
  · rintro ⟨stack, hstack, rfl⟩
    obtain ⟨names, hnames, hroot | ⟨ups, hups⟩⟩ := hstack.reverse_cases
    · rw [hroot, ofComponents_root]
      exact .absolute hnames
    · rw [hups]
      by_cases hne : List.replicate ups ".." ++ names = []
      · have hnil : upsAndNames ups names = [] := by
          rw [← map_text_upsAndNames] at hne
          exact List.map_eq_nil_iff.1 hne
        rw [hnil]
        exact .here
      · rw [ofComponents_upsAndNames hne]
        exact .relative hnames hne

/-- What normalizing gives has nothing left to resolve, and is never changed again. -/
theorem resolved_iff {p : Path} : Resolved p ↔ p.normalize = p := by
  rw [resolved_iff_exists]
  constructor
  · rintro ⟨stack, hstack, rfl⟩
    exact normalize_ofComponents hstack
  · intro h
    refine ⟨_, normalized_resolve p, ?_⟩
    rw [List.reverse_reverse]
    exact h.symm

/-! ## Nothing idle -/

/-- No `.` beside another component, no `..` behind a name or the root, no separator behind
another one, and none at the end but for the root. -/
structure Tidy (p : Path) : Prop where
  current_alone : Component.current ∈ p.components → p.components = [.current]
  parents_first : p.components.Pairwise fun a b => b = .parent → a = .parent
  no_double_slash : ¬ ['/', '/'] <:+: p.text.toList
  slash_end : p.text.toList.getLast? = some '/' → p.text = "/"

theorem pairwise_upsAndNames (ups : Nat) (names : List String) :
    (upsAndNames ups names).Pairwise fun a b => b = .parent → a = .parent := by
  refine List.pairwise_append.2 ⟨?_, ?_, ?_⟩
  · exact List.pairwise_replicate.2 (.inr fun h => h)
  · exact List.pairwise_map.2 (List.pairwise_of_forall fun _ _ h => nomatch h)
  · intro a ha b hb h
    exact List.eq_of_mem_replicate ha

/-- A separator behind another one has an empty piece before it. -/
theorem nil_mem_pieces_of_double_slash {s : List Char} (h : ['/', '/'] <:+: '/' :: s) :
    [] ∈ Text.pieces (· == '/') s := by
  obtain ⟨a, b, hab⟩ := h
  have htext : a ++ '/' :: '/' :: b = '/' :: s := by simpa using hab
  cases a with
  | nil =>
    obtain rfl : '/' :: b = s := (List.cons.inj htext).2
    exact List.mem_cons_self
  | cons c a =>
    obtain rfl : a ++ '/' :: '/' :: b = s := (List.cons.inj htext).2
    rw [Text.pieces_append_cons (by decide)]
    exact List.mem_append_right _ List.mem_cons_self

/-- A separator at the end has an empty piece behind it. -/
theorem nil_mem_pieces_of_slash_end {s : List Char} (h : s.getLast? = some '/') :
    [] ∈ Text.pieces (· == '/') s := by
  obtain ⟨a, rfl⟩ := List.getLast?_eq_some_iff.1 h
  rw [Text.pieces_append_cons (by decide)]
  exact List.mem_append_right _ List.mem_cons_self

/-- Components that stand anywhere are written without an empty piece. -/
theorem nil_not_mem_pieces_joined {cs : List Component} (hne : cs ≠ [])
    (hcs : ∀ c ∈ cs, Inner c) :
    [] ∉ Text.pieces (· == '/') (joined "/" (cs.map Component.text)).toList := by
  rw [toList_joined_text, pieces_joinWith_slash (by simpa using hne) (noSlash_map_text hcs)]
  intro hnil
  obtain ⟨c, hc, htext⟩ := List.mem_map.1 hnil
  have hread := innerComponent?_text (hcs c hc)
  rw [htext] at hread
  cases hread

theorem Resolved.components_cases {p : Path} (h : Resolved p) :
    p.components = [.current] ∨
      ∃ names, p.components = .root :: upsAndNames 0 names ∨
        ∃ ups, p.components = upsAndNames ups names := by
  obtain ⟨stack, hstack, rfl⟩ := resolved_iff_exists.1 h
  by_cases hne : stack = []
  · subst hne
    exact .inl (by decide)
  · right
    rw [components_ofComponents hstack hne]
    obtain ⟨names, -, hcases⟩ := hstack.reverse_cases
    exact ⟨names, hcases⟩

/-- Apart from the root, there is no empty piece behind the beginning of the text. -/
theorem Resolved.text_cases {p : Path} (h : Resolved p) :
    p.text = "/" ∨
      ∃ w, [] ∉ Text.pieces (· == '/') w ∧ (p.text.toList = w ∨ p.text.toList = '/' :: w) := by
  cases h with
  | here => exact .inr ⟨['.'], by decide, .inl (by decide)⟩
  | @absolute names hnames =>
    by_cases hnil : names = []
    · left
      rw [hnil]
      decide
    · right
      have hcs : upsAndNames 0 names ≠ [] := by simpa [upsAndNames] using hnil
      have hpieces := nil_not_mem_pieces_joined hcs (inner_of_mem_upsAndNames hnames)
      rw [map_text_upsAndNames] at hpieces
      exact ⟨_, hpieces, .inr (String.toList_append ..)⟩
  | @relative ups names hnames hne =>
    right
    have hcs : upsAndNames ups names ≠ [] := by
      intro hnil
      rw [← map_text_upsAndNames, hnil] at hne
      exact hne rfl
    have hpieces := nil_not_mem_pieces_joined hcs (inner_of_mem_upsAndNames hnames)
    rw [map_text_upsAndNames] at hpieces
    exact ⟨_, hpieces, .inl rfl⟩

theorem Resolved.text_ne {p : Path} (h : Resolved p) : p.text ≠ "" := by
  intro hp
  rcases h.text_cases with hroot | ⟨w, hw, htext | htext⟩
  · rw [hroot] at hp
    exact absurd hp (by decide)
  · rw [hp] at htext
    rw [← htext] at hw
    exact hw List.mem_cons_self
  · rw [hp] at htext
    cases htext

/-- In normal form nothing is idle. -/
theorem Resolved.tidy {p : Path} (h : Resolved p) : Tidy p where
  current_alone := by
    intro hc
    rcases h.components_cases with hcur | ⟨names, hroot | ⟨ups, hups⟩⟩
    · exact hcur
    · rw [hroot] at hc
      simp [upsAndNames] at hc
    · rw [hups] at hc
      simp [upsAndNames] at hc
  parents_first := by
    rcases h.components_cases with hcur | ⟨names, hroot | ⟨ups, hups⟩⟩
    · rw [hcur]
      exact List.pairwise_singleton _ _
    · rw [hroot]
      refine List.pairwise_cons.2 ⟨?_, pairwise_upsAndNames 0 names⟩
      rintro c hc rfl
      simp [upsAndNames] at hc
    · rw [hups]
      exact pairwise_upsAndNames ups names
  no_double_slash := by
    intro hslash
    rcases h.text_cases with hroot | ⟨w, hw, htext | htext⟩
    · rw [hroot] at hslash
      exact absurd hslash.length_le (by decide)
    · rw [htext] at hslash
      exact hw (nil_mem_pieces_of_double_slash (hslash.trans (List.suffix_cons '/' w).isInfix))
    · rw [htext] at hslash
      exact hw (nil_mem_pieces_of_double_slash hslash)
  slash_end := by
    intro hlast
    -- only behind the separator of the root can there be nothing, and then it is the root
    rcases h.text_cases with hroot | ⟨w, hw, htext | htext⟩
    · exact hroot
    · rw [htext] at hlast
      exact absurd (nil_mem_pieces_of_slash_end hlast) hw
    · rw [htext] at hlast
      cases w with
      | nil => exact absurd List.mem_cons_self hw
      | cons c cs =>
        rw [List.getLast?_cons_cons] at hlast
        exact absurd (nil_mem_pieces_of_slash_end hlast) hw

end Path

end Toolchain
