import MarkupCode.Html.Tree
import MarkupCode.Node.Basic

/-!
# From page trees to nodes

A tag becomes an element, an inert string a node without content, and any other string a text.
`Tree.nodes` says so by recursion. `copy` does the same with a stack of tags to visit, so that a page
may nest as deeply as memory allows: visiting a tag notes its contents with holes where tags stand and
puts those tags on the stack, the last one on top; the notes are then made into nodes from the last to
the first.
-/

namespace MarkupCode.Html

def AttributeValue.toText : AttributeValue → Text
  | absent => []
  | text s => s
  | words ws => [' '].intercalate ws
  | number n => (toString n).toList

def nodeAttributes (attrs : TagAttributes) : Attributes := attrs.map fun a => (a.1, a.2.toText)

def stringNode (sort : StringSort) (s : Text) : Node :=
  if sort.isInert then .inert s else .ofText s

mutual
def Tree.node : Tree → Node
  | .tag name attrs contents => .element name (nodeAttributes attrs) (Tree.nodes contents)
  | .string sort s => stringNode sort s
  | .mark => .inert []

def Tree.nodes : List Tree → List Node
  | [] => []
  | t :: ts => t.node :: Tree.nodes ts
end

structure Tag where
  name : Text
  attrs : TagAttributes
  contents : List Tree

def childTags (contents : List Tree) : List Tag :=
  contents.filterMap fun
    | .tag name attrs contents => some ⟨name, attrs, contents⟩
    | _ => none

def slots (contents : List Tree) : List (Option Node) :=
  contents.map fun
    | .tag _ _ _ => none
    | .string sort s => some (stringNode sort s)
    | .mark => some (.inert [])

structure Note where
  name : Text
  attrs : TagAttributes
  slots : List (Option Node)

def Tag.size (t : Tag) : Nat := 1 + Tree.sizes t.contents

def tagSizes : List Tag → Nat
  | [] => 0
  | t :: ts => t.size + tagSizes ts

theorem tagSizes_append (tags more : List Tag) :
    tagSizes (tags ++ more) = tagSizes tags + tagSizes more := by
  induction tags with
  | nil => exact (Nat.zero_add _).symm
  | cons t ts ih => rw [List.cons_append, tagSizes, tagSizes, ih, Nat.add_assoc]

theorem tagSizes_reverse (tags : List Tag) : tagSizes tags.reverse = tagSizes tags := by
  induction tags with
  | nil => rfl
  | cons t ts ih =>
    rw [List.reverse_cons, tagSizes_append, ih, tagSizes, tagSizes, tagSizes]
    omega

theorem tagSizes_childTags_le (contents : List Tree) :
    tagSizes (childTags contents) ≤ Tree.sizes contents := by
  induction contents with
  | nil => exact Nat.le_refl _
  | cons t ts ih =>
    cases t <;> simp_all [childTags, tagSizes, Tree.sizes, Tree.size, Tag.size] <;> omega

/-- The notes on all tags of the stack and inside them, in the order of the visits. -/
def visit : List Tag → List Note
  | [] => []
  | t :: rest => ⟨t.name, t.attrs, slots t.contents⟩ :: visit ((childTags t.contents).reverse ++ rest)
termination_by tags => tagSizes tags
decreasing_by
  have := tagSizes_childTags_le t.contents
  rw [tagSizes_append, tagSizes_reverse, tagSizes, Tag.size]
  omega

def fill : List (Option Node) → List Node → List Node
  | [], _ => []
  | some n :: slots, nodes => n :: fill slots nodes
  | none :: slots, [] => fill slots []
  | none :: slots, n :: nodes => n :: fill slots nodes

/-- Makes a note into an element. The elements for its holes are the last ones made and stand first,
in reverse order. -/
def place (note : Note) (made : List Node) : List Node :=
  let holes := note.slots.countP (·.isNone)
  .element note.name (nodeAttributes note.attrs) (fill note.slots (made.take holes).reverse) ::
    made.drop holes

def copy (contents : List Tree) : Node :=
  let made := (visit (childTags contents).reverse).foldr place []
  .document (fill (slots contents) made.reverse)

end MarkupCode.Html
