import MarkupCode.Html.Tree

/-!
# Tokens of a page

Markup is read as a list of tokens: runs of text with their references read, tags, and inert strings.
An empty tag opens and closes an element at once.
-/

namespace MarkupCode.Html

inductive Token
  | text (s : Text)
  | startTag (name : Text) (attrs : List (Text × Text))
  | emptyTag (name : Text) (attrs : List (Text × Text))
  | endTag (name : Text)
  | inert (sort : StringSort) (s : Text)
  deriving DecidableEq, Repr

/-- Elements whose text is taken as it stands up to their end tag. -/
def verbatimElements : List Text := ["script".toList, "style".toList]

end MarkupCode.Html
