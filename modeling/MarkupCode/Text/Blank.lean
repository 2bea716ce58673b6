import MarkupCode.Text.Interval

/-!
# Blanks

The blank characters are those of Unicode together with the four information separators. A text is
stripped of blanks at both ends; what is left neither begins nor ends with one.
-/

namespace MarkupCode.Text

def blanks : List Interval :=
  [(0x09, 0x0d), (0x1c, 0x20), (0x85, 0x85), (0xa0, 0xa0), (0x1680, 0x1680), (0x2000, 0x200a),
   (0x2028, 0x2029), (0x202f, 0x202f), (0x205f, 0x205f), (0x3000, 0x3000)]

def isBlank (c : Char) : Bool := inClass blanks c

def stripLeft (s : Text) : Text := s.dropWhile isBlank

def stripRight (s : Text) : Text := (s.reverse.dropWhile isBlank).reverse

def strip (s : Text) : Text := stripRight (stripLeft s)

@[simp] theorem strip_nil : strip [] = [] := rfl

theorem stripLeft_eq_nil_iff {s : Text} : stripLeft s = [] ↔ ∀ c ∈ s, isBlank c := by
  induction s with
  | nil => simp [stripLeft]
  | cons c r ih => by_cases h : isBlank c <;> simp_all [stripLeft]

end MarkupCode.Text
