import MarkupCode.Text.Pieces

/-!
# Lines

The lines of a text are its pieces between line feeds. `indent` puts the same number of spaces in
front of every line, and `flushLeft` removes all spaces there.
-/

namespace MarkupCode.Text

def mapLines (f : Text → Text) (s : Text) : Text := ['\n'].intercalate ((pieces '\n' s).map f)

def indent (width : Nat) (s : Text) : Text := mapLines (List.replicate width ' ' ++ ·) s

def flushLeft (s : Text) : Text := mapLines (·.dropWhile (· = ' ')) s

theorem newline_notMem_of_mem_lines {s l : Text} (h : l ∈ pieces '\n' s) : '\n' ∉ l :=
  separator_notMem_pieces h

end MarkupCode.Text
