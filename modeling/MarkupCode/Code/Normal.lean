import MarkupCode.Code.Emit

/-!
# Normal forms

The normal form of a node keeps what its code shows and nothing else. Blank texts and nodes that
render nothing are left out below it, as are the children of void elements and those of a script that
are no texts; texts are stripped, and attributes that hold by being present lose their values.
-/

namespace MarkupCode.Code

def normalAttributes (attrs : Attributes) : Attributes :=
  attrs.map fun a => (a.1, if a.1 ∈ booleanAttributes then [] else a.2)

mutual
def normal : Node → Node
  | ⟨kind, name, attrs, children, text⟩ =>
    match kind with
    | .text => { kind, text := Text.strip text }
    | .script =>
      { kind, name := "script".toList, attrs := normalAttributes attrs
        children := (normalAll children).filter (·.kind = .text) }
    | .element =>
      { kind, name, attrs := normalAttributes attrs
        children := if isVoid name then [] else normalAll children }
    | _ => { kind, children := normalAll children }

def normalAll : List Node → List Node
  | [] => []
  | c :: cs => if renders c then normal c :: normalAll cs else normalAll cs
end

end MarkupCode.Code
