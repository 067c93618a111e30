/-
# The fields of a text

Support library: the runs of characters between separators, of any kind of list.

* `fields_append_cons`: a separator cuts the fields of a text into those before it and those
  after it; the other lemmas are its special cases.
-/
import Mathlib.Data.List.Basic

namespace Fields

variable {α : Type} {p : α → Bool} {field text rest : List α} {sep : α}

/-- The runs of characters that are no separators. -/
def fields (p : α → Bool) (text : List α) : List (List α) := (text.splitOnP p).filter (· ≠ [])

/-- **A separator cuts a text in two.** -/
theorem fields_append_cons (hsep : p sep = true) (text rest : List α) :
    fields p (text ++ sep :: rest) = fields p text ++ fields p rest := by
  unfold fields
  rw [List.splitOnP_append_cons text rest hsep, List.filter_append]

/-- An empty text has no fields. -/
theorem fields_nil : fields p [] = [] := by
  unfold fields
  rw [List.splitOnP_nil]
  rfl

/-- A separator at the beginning does not count. -/
theorem fields_cons (hsep : p sep = true) (rest : List α) :
    fields p (sep :: rest) = fields p rest := by
  have h := fields_append_cons hsep [] rest
  rw [fields_nil] at h
  exact h

/-- Nor does one at the end. -/
theorem fields_concat (hsep : p sep = true) (text : List α) :
    fields p (text ++ [sep]) = fields p text := by
  rw [fields_append_cons hsep, fields_nil, List.append_nil]

/-- A text without separators is one field. -/
theorem fields_self (hfield : ∀ c ∈ field, p c = false) (hne : field ≠ []) :
    fields p field = [field] := by
  unfold fields
  rw [List.splitOnP_eq_singleton hfield]
  exact List.filter_cons_of_pos (decide_eq_true hne)

/-- The field before a separator. -/
theorem fields_field_cons (hfield : ∀ c ∈ field, p c = false) (hne : field ≠ [])
    (hsep : p sep = true) (rest : List α) :
    fields p (field ++ sep :: rest) = field :: fields p rest := by
  rw [fields_append_cons hsep, fields_self hfield hne, List.singleton_append]

end Fields
