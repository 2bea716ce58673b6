import MarkupCode.Code.Emit

/-!
# Content of code

What the code of a tree says, without its layout: texts, and elements with identifiers and values in
order and, unless they are void, with children. `Node.contents` takes it from the tree.
-/

namespace MarkupCode.Code

inductive Content
  | text (s : Text)
  | element (name : Text) (attrs : List (Text × Option Text)) (children : Option (List Content))
  deriving Repr

def attributeContent (a : Text × Text) : Text × Option Text :=
  (identifier a.1, if a.1 ∈ booleanAttributes then none else some a.2)

/-- The literals of a script, whose quotes have become apostrophes. -/
def scriptContents (children : List Node) : List Content :=
  ((children.filter (·.kind = .text)).map (Text.strip ·.text)).filterMap fun s =>
    if s = [] then none else some (.text (calm s))

mutual
def contents : Node → List Content
  | ⟨kind, name, attrs, children, text⟩ =>
    match kind with
    | .text => if Text.strip text = [] then [] else [.text (Text.strip text)]
    | .script =>
      [.element "script".toList (attrs.map attributeContent) (some (scriptContents children))]
    | .element =>
      [.element name (attrs.map attributeContent)
        (if isVoid name then none else some (contentsAll children))]
    | _ => []

def contentsAll : List Node → List Content
  | [] => []
  | c :: cs => contents c ++ contentsAll cs
end

end MarkupCode.Code
