/-!
# Intervals of code points

A class of characters is a list of closed intervals of code points, and a simple case map is a list
of shifts: runs of characters, with a stride, that move by one distance.
-/

namespace MarkupCode

abbrev Text := List Char

instance lawfulBEq_text : LawfulBEq Text := inferInstance

instance lawfulBEq_optionChar : LawfulBEq (Option Char) := inferInstance

namespace Text

abbrev Interval := Nat × Nat

def Interval.contains (i : Interval) (n : Nat) : Bool := i.1 ≤ n && n ≤ i.2

def inClass (intervals : List Interval) (c : Char) : Bool :=
  intervals.any (·.contains c.toNat)

/-- The characters `first`, `first + stride`, …, `last`, each `offset` away from its image. -/
structure Shift where
  first : Nat
  last : Nat
  stride : Nat
  offset : Int

def Shift.image? (s : Shift) (n : Nat) : Option Nat :=
  if s.first ≤ n && n ≤ s.last && (n - s.first) % s.stride == 0 then some (n + s.offset).toNat
  else none

def shifted (shifts : List Shift) (c : Char) : Char :=
  ((shifts.findSome? (·.image? c.toNat)).map Char.ofNat).getD c

theorem shifted_mem (shifts : List Shift) (c : Char) :
    shifted shifts c = c ∨ ∃ s ∈ shifts, ∃ n, s.image? c.toNat = some n ∧
      shifted shifts c = Char.ofNat n := by
  unfold shifted
  cases h : shifts.findSome? (·.image? c.toNat) with
  | none => exact .inl rfl
  | some n =>
    obtain ⟨s, hs, hn⟩ := List.exists_of_findSome?_eq_some h
    exact .inr ⟨s, hs, n, hn, rfl⟩

end Text
end MarkupCode
