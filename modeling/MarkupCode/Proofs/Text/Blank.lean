import Mathlib.Data.List.DropRight
import MarkupCode.Text.Blank

/-!
# Stripped texts

Stripping only takes characters away, and what it leaves it leaves for good.
-/

namespace MarkupCode.Text

theorem mem_of_mem_strip {c : Char} {s : Text} (h : c ∈ strip s) : c ∈ s := by
  unfold strip stripRight stripLeft at h
  have h := (List.dropWhile_suffix _).subset (List.mem_reverse.1 h)
  exact (List.dropWhile_suffix _).subset (List.mem_reverse.1 h)

theorem stripLeft_stripLeft (s : Text) : stripLeft (stripLeft s) = stripLeft s :=
  List.dropWhile_idempotent isBlank s

theorem stripRight_stripRight (s : Text) : stripRight (stripRight s) = stripRight s :=
  List.rdropWhile_idempotent isBlank s

/-- Taking away characters at the right brings no blank to the left end. -/
theorem stripLeft_stripRight {s : Text} (h : stripLeft s = s) : stripLeft (stripRight s) = stripRight s := by
  have hprefix : stripRight s <+: s := List.rdropWhile_prefix isBlank s
  cases hs : stripRight s with
  | nil => rfl
  | cons c r =>
    obtain ⟨t, rfl⟩ := hs ▸ hprefix
    have hc : ¬ isBlank c := by
      intro hc
      have hlength := congrArg List.length h
      rw [stripLeft, List.cons_append, List.dropWhile_cons_of_pos hc] at hlength
      have hle := (List.dropWhile_suffix (l := r ++ t) isBlank).length_le
      rw [hlength, List.length_cons] at hle
      omega
    exact List.dropWhile_cons_of_neg hc

theorem strip_strip (s : Text) : strip (strip s) = strip s := by
  rw [strip, strip, stripLeft_stripRight (stripLeft_stripLeft s), stripRight_stripRight]

end MarkupCode.Text
