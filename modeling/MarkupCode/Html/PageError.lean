import MarkupCode.Text.Quoted

/-!
# Pages that cannot be read

A page is refused for a marked section without a name or with an unknown one, and for a decimal
character reference with more digits than a number may have. Everything else can be read.
-/

namespace MarkupCode.Html

inductive PageError
  /-- A marked section does not begin with a name; `near` is the markup from its beginning. -/
  | expectedName (near : Text)
  | unknownKeyword (keyword : Text)
  | longNumeral (digits : Nat)
  deriving DecidableEq, Repr

namespace PageError

def rejection (detail : Text) : String :=
  "The markup you provided was rejected by the parser. Trying a different parser or a different " ++
    "encoding may help.\n\nOriginal exception(s) from parser:\n AssertionError: " ++
    String.ofList detail

def message : PageError → String
  | expectedName near => rejection ("expected name token at ".toList ++ Text.quoted near)
  | unknownKeyword keyword =>
    rejection ("unknown status keyword ".toList ++ Text.quoted keyword ++
      " in marked section".toList)
  | longNumeral digits => Text.longNumeralMessage digits

end PageError
end MarkupCode.Html
