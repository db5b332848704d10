import Toolchain.Text.Split

/-!
# Marks in a text

A text is cut around the first occurrence of a mark. A mark that ends with a character which it
holds nowhere else cannot overlap itself, so a text that is put together around such a mark is
cut where it was put together exactly if the mark does not occur before. In a text of pieces
that are ended by this character, a mark occurs where a piece ends with it.

## Main statements

  * `cutAround_eq_some_iff` — a text is cut around the first occurrence.
  * `cutAround_mark_iff` — when a text is cut around the mark that was put into it.
  * `mark_infix_iff` — where a mark occurs.
-/

namespace Toolchain.Text

/-! ## The first occurrence -/

/-- A text is cut around the first occurrence. -/
theorem cutAround_eq_some_iff {pat s a b : List Char} :
    cutAround pat s = some (a, b) ↔
      s = a ++ (pat ++ b) ∧ ∀ a' b', s = a' ++ (pat ++ b') → a.length ≤ a'.length := by
  induction s generalizing a with
  | nil =>
    unfold cutAround
    constructor
    · intro h
      split at h
      next hpat =>
        cases h
        exact ⟨by rw [hpat]; rfl, fun a' b' _ => Nat.zero_le _⟩
      next => cases h
    · rintro ⟨h, -⟩
      obtain ⟨rfl, hrest⟩ := List.append_eq_nil_iff.1 h.symm
      obtain ⟨rfl, rfl⟩ := List.append_eq_nil_iff.1 hrest
      rfl
  | cons c cs ih =>
    unfold cutAround
    cases hstart : dropStart? pat (c :: cs) with
    | some rest =>
      have hrest := dropStart?_eq_some.1 hstart
      constructor
      · intro h
        cases h
        exact ⟨hrest, fun a' b' _ => Nat.zero_le _⟩
      · rintro ⟨h, hfirst⟩
        obtain rfl : a = [] := List.eq_nil_of_length_eq_zero
          (Nat.le_zero.1 (hfirst [] rest hrest))
        rw [hrest, List.nil_append] at h
        rw [List.append_cancel_left h]
    | none =>
      -- here the text does not begin with the mark, so no cut is at its beginning
      have hnot : ∀ b', c :: cs ≠ pat ++ b' := fun b' h => by
        rw [dropStart?_eq_some.2 h] at hstart
        cases hstart
      constructor
      · intro h
        obtain ⟨⟨x, y⟩, hxy, heq⟩ := Option.map_eq_some_iff.1 h
        cases heq
        obtain ⟨hsplit, hfirst⟩ := ih.1 hxy
        refine ⟨by rw [hsplit]; rfl, fun a' b' h' => ?_⟩
        cases a' with
        | nil => exact absurd h' (hnot b')
        | cons d ds =>
          obtain ⟨-, hds⟩ := List.cons.inj h'
          exact Nat.succ_le_succ (hfirst ds b' hds)
      · rintro ⟨h, hfirst⟩
        cases a with
        | nil => exact absurd h (hnot b)
        | cons d ds =>
          obtain ⟨rfl, hds⟩ := List.cons.inj h
          have hcut : cutAround pat cs = some (ds, b) := ih.2 ⟨hds, fun a' b' h' =>
            Nat.le_of_succ_le_succ (hfirst (c :: a') b' (by rw [h']; rfl))⟩
          rw [hcut]
          rfl

/-! ## Marks -/

variable {d : Char} {m : List Char}

/-- A mark that begins before another one ends before it begins. -/
theorem mark_before {a b a' b' : List Char} (hm : d ∉ m)
    (h : a ++ (m ++ [d] ++ b) = a' ++ (m ++ [d] ++ b')) (hlt : a'.length < a.length) :
    m ++ [d] <:+: a := by
  have hearlier : a' ++ (m ++ [d]) <+: a ++ (m ++ [d] ++ b) := ⟨b', by rw [h]; simp⟩
  have hlater : a ++ m <+: a ++ (m ++ [d] ++ b) := ⟨d :: b, by simp⟩
  have hle : (a' ++ (m ++ [d])).length ≤ (a ++ m).length := by
    simp only [List.length_append, List.length_singleton]
    omega
  obtain ⟨z, hz⟩ := List.prefix_of_prefix_length_le hearlier hlater hle
  rcases List.append_eq_append_iff.1 hz with ⟨y, hy, -⟩ | ⟨y, hy, hmy⟩
  · exact ⟨a', y, by rw [hy]⟩
  · -- what the earlier mark has in common with the later one would end with `d`
    rcases List.eq_nil_or_concat y with rfl | ⟨ys, e, rfl⟩
    · exact ⟨a', [], by simpa using hy⟩
    · rw [List.concat_eq_append, ← List.append_assoc, ← List.append_assoc] at hy
      obtain ⟨-, he⟩ := List.append_inj' hy rfl
      cases he
      exact absurd (by rw [hmy]; simp) hm

/-- A text is cut around the mark that was put into it, exactly if none was there before. -/
theorem cutAround_mark_iff {a b : List Char} (hm : d ∉ m) :
    cutAround (m ++ [d]) (a ++ (m ++ [d] ++ b)) = some (a, b) ↔ ¬m ++ [d] <:+: a := by
  rw [cutAround_eq_some_iff, and_iff_right rfl]
  constructor
  · rintro hfirst ⟨x, y, rfl⟩
    have hle := hfirst x (y ++ (m ++ [d] ++ b)) (by simp)
    simp only [List.length_append, List.length_singleton] at hle
    omega
  · intro hnot a' b' h
    exact Nat.le_of_not_lt fun hlt => hnot (mark_before hm h hlt)

/-- A mark occurs where a piece that its last character ends has the rest of it at its end, or
in what comes after. -/
theorem mark_infix_iff {w rest : List Char} (hm : d ∉ m) (hw : d ∉ w) :
    m ++ [d] <:+: w ++ d :: rest ↔ m <:+ w ∨ m ++ [d] <:+: rest := by
  constructor
  · rintro ⟨x, y, h⟩
    have hsplit : (x ++ m) ++ d :: y = w ++ d :: rest := by simpa using h
    rcases List.append_eq_append_iff.1 hsplit with ⟨z, hz, hrest⟩ | ⟨z, hz, hrest⟩
    · cases z with
      | nil => exact .inl ⟨x, by rw [hz, List.append_nil]⟩
      | cons e es =>
        obtain ⟨rfl, -⟩ := List.cons.inj hrest
        exact absurd (by rw [hz]; simp) hw
    · cases z with
      | nil => exact .inl ⟨x, by rw [hz, List.append_nil]⟩
      | cons e es =>
        obtain ⟨rfl, rfl⟩ := List.cons.inj hrest
        -- the mark lies behind the piece, since it does not hold the character in between
        rcases List.append_eq_append_iff.1 hz with ⟨u, -, hmu⟩ | ⟨u, -, hu⟩
        · exact absurd (by rw [hmu]; simp) hm
        · cases u with
          | nil =>
            rw [List.nil_append] at hu
            exact absurd (by rw [← hu]; simp) hm
          | cons f fs =>
            obtain ⟨-, rfl⟩ := List.cons.inj hu
            exact .inr ⟨fs, y, by simp⟩
  · rintro (⟨x, rfl⟩ | ⟨x, y, rfl⟩)
    · exact ⟨x, rest, by simp⟩
    · exact ⟨w ++ d :: x, y, by simp⟩

end Toolchain.Text
