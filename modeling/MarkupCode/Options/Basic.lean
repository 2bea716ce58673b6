/-!
# Converter options

How many spaces a nesting level takes, and whether only the body of a page is converted. A level
takes at least one space.
-/

namespace MarkupCode

structure Options where
  indentSize : Nat := 4
  bodyOnly : Bool := false
  indentSize_pos : 0 < indentSize := by decide
  deriving DecidableEq, Repr

/-- The width of a level is four spaces where nothing else is said. -/
theorem Options.usual_pos : 0 < 4 := by decide

instance : Inhabited Options := ⟨{ indentSize_pos := Options.usual_pos }⟩

end MarkupCode
