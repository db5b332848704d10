import Toolchain.Proofs.Text.Words

/-!
# Fields of a text

The fields of a text are its pieces between separators, but for the empty ones. So it makes no
difference how many separators stand between two fields, and whether there are some at the
ends. Words are the fields between blanks.

## Main statements

  * `fields_append_cons` — a separator divides a text.
  * `fields_separators_append`, `fields_append_separators` — separators at an end do not count.
  * `fields_field_append` — a field goes up to the next separator.
  * `fields_joinWith` — texts with a separator between them have the fields of all of them.
-/

namespace Toolchain.Text

/-- The pieces of a text between separators that are not empty. -/
def fields (p : Char → Bool) (s : List Char) : List (List Char) := (pieces p s).filter (· ≠ [])

variable {p : Char → Bool}

@[simp] theorem fields_nil (p : Char → Bool) : fields p [] = [] := rfl

/-- A separator divides a text. -/
theorem fields_append_cons {d : Char} (hd : p d = true) (s t : List Char) :
    fields p (s ++ d :: t) = fields p s ++ fields p t := by
  unfold fields
  rw [pieces_append_cons hd, List.filter_append]

theorem fields_cons {d : Char} (hd : p d = true) (t : List Char) :
    fields p (d :: t) = fields p t := fields_append_cons hd [] t

/-- Separators at the beginning do not count. -/
theorem fields_separators_append {s : List Char} (hs : ∀ c ∈ s, p c = true) (t : List Char) :
    fields p (s ++ t) = fields p t := by
  induction s with
  | nil => rfl
  | cons c cs ih =>
    have hc : p c = true := hs c List.mem_cons_self
    have hcs : ∀ d ∈ cs, p d = true := fun d hd => hs d (List.mem_cons_of_mem c hd)
    rw [List.cons_append, fields_cons hc, ih hcs]

theorem fields_separators {s : List Char} (hs : ∀ c ∈ s, p c = true) : fields p s = [] := by
  have h := fields_separators_append hs []
  rwa [List.append_nil] at h

/-- Separators at the end do not count. -/
theorem fields_append_separators {s : List Char} (hs : ∀ c ∈ s, p c = true) (t : List Char) :
    fields p (t ++ s) = fields p t := by
  cases s with
  | nil => rw [List.append_nil]
  | cons c cs =>
    have hc : p c = true := hs c List.mem_cons_self
    have hcs : ∀ d ∈ cs, p d = true := fun d hd => hs d (List.mem_cons_of_mem c hd)
    rw [fields_append_cons hc, fields_separators hcs, List.append_nil]

/-- A text without separators is one field, unless it is empty. -/
theorem fields_eq_singleton {w : List Char} (hne : w ≠ []) (hw : ∀ c ∈ w, p c = false) :
    fields p w = [w] := by
  unfold fields
  rw [pieces_eq_singleton hw]
  simp [hne]

/-- A field goes up to the next separator. -/
theorem fields_field_append {w t : List Char} (hne : w ≠ []) (hw : ∀ c ∈ w, p c = false)
    (ht : ∀ c, t.head? = some c → p c = true) : fields p (w ++ t) = w :: fields p t := by
  cases t with
  | nil => rw [List.append_nil, fields_eq_singleton hne hw, fields_nil]
  | cons d ds =>
    have hd : p d = true := ht d rfl
    rw [fields_append_cons hd, fields_eq_singleton hne hw, fields_cons hd]
    rfl

/-- Texts with a separator between them have the fields of all of them. -/
theorem fields_joinWith {d : Char} (hd : p d = true) (ws : List (List Char)) :
    fields p (joinWith [d] ws) = ws.flatMap (fields p) := by
  induction ws with
  | nil => rfl
  | cons w ws ih =>
    cases ws with
    | nil => simp [joinWith]
    | cons v ws =>
      show fields p (w ++ [d] ++ joinWith [d] (v :: ws)) = _
      rw [List.append_assoc, List.singleton_append, fields_append_cons hd, ih]
      rfl

end Toolchain.Text
