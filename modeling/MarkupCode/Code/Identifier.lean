import MarkupCode.Code.Attribute
import MarkupCode.Text.Pieces

/-!
# Identifiers and names

The identifier of a name is made from its pieces between runs of hyphens: the first as it is, every
other with its first letter capitalised. Where only lower-case names occur, a capital tells that a
hyphen stood before it, so what an identifier keeps of a name is its canonical form: the name without
the hyphens that no small letter follows.
-/

namespace MarkupCode.Code

def capitalised : Text → Text
  | [] => []
  | c :: rest => Text.upper c ++ rest

def joinCapitalised : List Text → Text
  | [] => []
  | first :: others => first ++ (others.map capitalised).flatten

def isSmallLetter (c : Char) : Bool := 'a' ≤ c && c ≤ 'z'

def canonical : Text → Text
  | [] => []
  | c :: rest =>
    if c = '-' ∧ !rest.head?.any isSmallLetter then canonical rest else c :: canonical rest

/-- Every capital letter spelled as a hyphen and its small letter. -/
def spelled (s : Text) : Text :=
  s.flatMap fun c => if 'A' ≤ c ∧ c ≤ 'Z' then ['-', c.toLower] else [c]

end MarkupCode.Code
