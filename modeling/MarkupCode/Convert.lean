import MarkupCode.Html.Page
import MarkupCode.Code.Emit

/-!
# Conversion

A page is read and the code of its document written. Either step may fail.
-/

namespace MarkupCode

inductive ConvertError
  | page (e : Html.PageError)
  | indent (e : Code.IndentError)
  deriving DecidableEq, Repr

def ConvertError.message : ConvertError → String
  | page e => e.message
  | indent .outOfRange => "cannot fit 'int' into an index-sized integer"

def convert (o : Options) (html : Text) : Except ConvertError Text := do
  let doc ← (Html.parse o.bodyOnly html).mapError .page
  (Code.emitDocument o doc).mapError .indent

end MarkupCode
