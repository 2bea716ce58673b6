import MarkupCode.Text.Interval

/-!
# Line ends

Texts are read with one kind of line end: a carriage return, alone or before a line feed, is read as
a line feed.
-/

namespace MarkupCode.Text

/-- Line ends of a text whose last character before it was a carriage return or not: a line feed
right behind a carriage return belongs to it. -/
def unifyFrom (afterReturn : Bool) : Text → Text
  | [] => []
  | c :: rest =>
    if c = '\r' then '\n' :: unifyFrom true rest
    else if c = '\n' ∧ afterReturn then unifyFrom false rest
    else c :: unifyFrom false rest

def unifyNewlines (s : Text) : Text := unifyFrom false s

end MarkupCode.Text
