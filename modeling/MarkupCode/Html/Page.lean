import MarkupCode.Html.Lexer
import MarkupCode.Html.OpenElements
import MarkupCode.Html.Copy

/-!
# Reading a page

A page is read into trees and copied into a document node. When only the body is wanted, the
contents of the first `body` in document order take the place of the page, if there is one.
-/

namespace MarkupCode.Html

def trees (html : Text) : Except PageError (List Tree) := (tokens html).map treesOf

def chosen (bodyOnly : Bool) (page : List Tree) : List Tree :=
  if bodyOnly then (Tree.findAll? "body".toList page).getD page else page

def parse (bodyOnly : Bool) (html : Text) : Except PageError Node :=
  (trees html).map fun page => copy (chosen bodyOnly page)

end MarkupCode.Html
