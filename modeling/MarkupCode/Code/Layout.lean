import MarkupCode.Code.Emit

/-!
# Code by recursion

The code of a node follows from its head and the codes of its children, one level deeper: a void
element is its head, every other element its head and the list of its children's codes. `layout` says
so by recursion on the tree.
-/

namespace MarkupCode.Code

mutual
def layout (o : Options) (level : Int) : Node → Except IndentError Text
  | ⟨kind, name, attrs, children, text⟩ =>
    match kind with
    | .text => .ok (textCode escape text)
    | .script => scriptCode o level ⟨kind, name, attrs, children, text⟩
    | .element =>
      if isVoid name then .ok (headCode name attrs)
      else do
        let body ← childList o level (← layouts o (level + 1) children)
        .ok (headCode name attrs ++ ' ' :: body)
    | _ => .ok []

/-- The codes of a row of nodes; those that render nothing have empty ones. -/
def layouts (o : Options) (level : Int) : List Node → Except IndentError (List Text)
  | [] => .ok []
  | c :: cs => do return (← layout o level c) :: (← layouts o level cs)
end

end MarkupCode.Code
