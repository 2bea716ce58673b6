import MarkupCode.Text.Interval

/-!
# Scanning up to a stop

A scan over a run of characters of one class takes the whole run when what follows does not continue
it.
-/

namespace MarkupCode.Text

variable {p : Char → Bool} {s rest : Text}

theorem takeWhile_append_stop (hs : ∀ c ∈ s, p c = true) (hr : ∀ c ∈ rest.head?, p c = false) :
    (s ++ rest).takeWhile p = s := by
  rw [List.takeWhile_append_of_pos hs]
  cases rest with
  | nil => simp
  | cons c rest => rw [List.takeWhile_cons_of_neg (by simp [hr c rfl]), List.append_nil]

theorem dropWhile_append_stop (hs : ∀ c ∈ s, p c = true) (hr : ∀ c ∈ rest.head?, p c = false) :
    (s ++ rest).dropWhile p = rest := by
  rw [List.dropWhile_append_of_pos hs]
  cases rest with
  | nil => simp
  | cons c rest => rw [List.dropWhile_cons_of_neg (by simp [hr c rfl])]

end MarkupCode.Text
