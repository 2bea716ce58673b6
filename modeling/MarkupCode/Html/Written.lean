import MarkupCode.Code.Emit
import MarkupCode.Code.Identifier
import MarkupCode.Html.OpenElements

/-!
# Trees as markup

`written` is the markup of a tree in the plainest spelling: every element with its end tag unless it
is void, values in double quotes, and the characters that markup uses for itself as references.
`isPlain` tells the trees that are read back from it.
-/

namespace MarkupCode.Html

def textEscape (c : Char) : Text :=
  if c = '&' then "&amp;".toList
  else if c = '<' then "&lt;".toList
  else if c = '>' then "&gt;".toList
  else [c]

def valueEscape (c : Char) : Text :=
  if c = '&' then "&amp;".toList
  else if c = '"' then "&quot;".toList
  else [c]

def writtenAttribute (a : Text × Text) : Text :=
  ' ' :: a.1 ++ ['=', '"'] ++ a.2.flatMap valueEscape ++ ['"']

def writtenStart (name : Text) (attrs : Attributes) : Text :=
  '<' :: name ++ attrs.flatMap writtenAttribute ++ ['>']

def writtenEnd (name : Text) : Text := ['<', '/'] ++ name ++ ['>']

mutual
def written : Node → Text
  | ⟨kind, name, attrs, children, text⟩ =>
    match kind with
    | .text => text.flatMap textEscape
    | .element =>
      if Code.isVoid name then writtenStart name attrs
      else writtenStart name attrs ++ writtenAll children ++ writtenEnd name
    | _ => writtenAll children

def writtenAll : List Node → Text
  | [] => []
  | c :: cs => written c ++ writtenAll cs
end

def isPlainName (name : Text) : Bool :=
  name ≠ [] && name.all Code.isSmallLetter && name ≠ "script".toList && name ≠ "style".toList &&
    (Code.isVoid name || name ∉ emptyElements)

def isPlainAttribute (name : Text) : Bool :=
  name.head?.any Code.isSmallLetter && name.all fun c => Code.isSmallLetter c || c = '-'

def arePlainAttributes (attrs : Attributes) : Bool :=
  attrs.all (isPlainAttribute ·.1) && decide (attrs.map Prod.fst).Nodup

mutual
/-- A text, or an element with plain names whose children are plain, without any if it is void. -/
def isPlain : Node → Bool
  | ⟨kind, name, attrs, children, _⟩ =>
    match kind with
    | .text => true
    | .element =>
      isPlainName name && arePlainAttributes attrs && (!Code.isVoid name || children.isEmpty) &&
        arePlain children
    | _ => false

/-- Plain nodes in a row, no two texts next to each other. -/
def arePlain : List Node → Bool
  | [] => true
  | c :: cs =>
    isPlain c && (c.kind ≠ .text || !cs.head?.any (·.kind = .text)) && arePlain cs
end

end MarkupCode.Html
