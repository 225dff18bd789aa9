import Mathlib.Data.List.Basic

/-!
# Trimming

A text without the items of some kind at its ends.
-/

namespace Text

variable {α : Type} {removed : α → Bool} {text : List α}

/-- A text without some items at its ends. -/
def trim (removed : α → Bool) (text : List α) : List α :=
  ((text.dropWhile removed).reverse.dropWhile removed).reverse

theorem dropWhile_eq_self (kept : ∀ item ∈ text.head?, removed item = false) :
    text.dropWhile removed = text := by
  cases text with
  | nil => rfl
  | cons item rest => rw [List.dropWhile_cons, if_neg (by simp [kept item rfl])]

theorem trim_eq_self
    (first : ∀ item ∈ text.head?, removed item = false)
    (last : ∀ item ∈ text.getLast?, removed item = false) :
    trim removed text = text := by
  rw [trim, dropWhile_eq_self first, dropWhile_eq_self, List.reverse_reverse]
  rw [List.head?_reverse]
  exact last

end Text
