import MarkupCode.Html.Copy

/-!
# A document that grows in place

A page can also be copied without notes. The node of a tag hangs in the document, without its contents, as
soon as the tag is met, and the tag waits on a stack together with the place of its node. `grow` visits the
tags that wait, the last one first, and hangs the contents of each one by one below the node that is already
there, until no tag waits.
-/

namespace MarkupCode

/-- The way down to a node, by positions among children. -/
abbrev Place := List Nat

namespace Node

def at? : Place → Node → Option Node
  | [], n => some n
  | i :: place, n => n.children[i]?.bind (at? place)

def modifyAt (f : Node → Node) : Place → Node → Node
  | [], n => f n
  | i :: place, n => { n with children := n.children.modify i (modifyAt f place) }

def extend (more : List Node) (n : Node) : Node := { n with children := n.children ++ more }

def childCount (n : Option Node) : Nat := n.elim 0 (·.children.length)

end Node

namespace Html

/-- A document under way, and the tags that wait with the places of their nodes, the last one first. -/
structure Growth where
  document : Node
  waiting : List (Tag × Place)

namespace Growth

/-- Hangs the node of a tree below the node at a place, behind the children it has; a tag waits from then
on. -/
def hang (place : Place) (g : Growth) : Tree → Growth
  | .tag name attrs contents =>
    { document := g.document.modifyAt (Node.extend [.element name (nodeAttributes attrs)]) place
      waiting := (⟨name, attrs, contents⟩, place ++ [Node.childCount (g.document.at? place)]) ::
        g.waiting }
  | .string sort s =>
    { g with document := g.document.modifyAt (Node.extend [stringNode sort s]) place }
  | .mark => { g with document := g.document.modifyAt (Node.extend [.inert []]) place }

def hangAll (place : Place) (g : Growth) : List Tree → Growth
  | [] => g
  | t :: ts => (g.hang place t).hangAll place ts

def size (g : Growth) : Nat := tagSizes (g.waiting.map Prod.fst)

theorem size_hang (place : Place) (g : Growth) (t : Tree) : (g.hang place t).size ≤ t.size + g.size := by
  cases t <;> simp [hang, size, tagSizes, Tag.size, Tree.size]

theorem size_hangAll (place : Place) (g : Growth) (ts : List Tree) :
    (g.hangAll place ts).size ≤ Tree.sizes ts + g.size := by
  induction ts generalizing g with
  | nil => exact Nat.le_add_left _ _
  | cons t ts ih =>
    have hfirst := size_hang place g t
    have hothers := ih (g.hang place t)
    rw [hangAll, Tree.sizes]
    omega

end Growth

def grow (g : Growth) : Node :=
  match _h : g.waiting with
  | [] => g.document
  | (t, place) :: rest => grow (Growth.hangAll place { g with waiting := rest } t.contents)
termination_by g.size
decreasing_by
  have := Growth.size_hangAll place { g with waiting := rest } t.contents
  have hsize : g.size = t.size + Growth.size { g with waiting := rest } := by
    rw [Growth.size, _h]
    rfl
  rw [hsize, Tag.size]
  omega

def growCopy (root : Tag) : Node := grow { document := .document [], waiting := [(root, [])] }

end Html
end MarkupCode
