import MarkupCode.Html.Copy

/-!
# The copy and the recursion

Visiting tags with a stack and making their notes into nodes from the last to the first gives the nodes
of all tags of the stack, in its order. So the copy of a page has the nodes that the recursion on its
trees gives.
-/

namespace MarkupCode.Html

def Tag.node (t : Tag) : Node := .element t.name (nodeAttributes t.attrs) (Tree.nodes t.contents)

theorem nodes_eq_map (ts : List Tree) : Tree.nodes ts = ts.map Tree.node := by
  induction ts with
  | nil => rfl
  | cons t ts ih => exact congrArg (t.node :: ·) ih

theorem fill_slots (contents : List Tree) :
    fill (slots contents) ((childTags contents).map Tag.node) = Tree.nodes contents := by
  induction contents with
  | nil => rfl
  | cons t ts ih =>
    cases t with
    | tag name attrs contents => exact congrArg (_ :: ·) ih
    | string sort s => exact congrArg (_ :: ·) ih
    | mark => exact congrArg (_ :: ·) ih

/-- A note has a hole for every tag inside. -/
theorem countP_slots (contents : List Tree) :
    (slots contents).countP (·.isNone) = (childTags contents).length := by
  induction contents with
  | nil => rfl
  | cons t ts ih => cases t <;> simp_all [slots, childTags]

/-- The elements made behind a note begin with those for its holes, the last hole first. -/
theorem place_note (t : Tag) (made : List Node) :
    place ⟨t.name, t.attrs, slots t.contents⟩ ((childTags t.contents).reverse.map Tag.node ++ made) =
      t.node :: made := by
  have hlen : (slots t.contents).countP (·.isNone) =
      ((childTags t.contents).reverse.map Tag.node).length := by
    rw [countP_slots, List.length_map, List.length_reverse]
  unfold place
  dsimp only
  rw [hlen, List.take_left, List.drop_left, ← List.map_reverse, List.reverse_reverse, fill_slots]
  rfl

theorem foldr_place_visit (tags : List Tag) : (visit tags).foldr place [] = tags.map Tag.node := by
  fun_induction visit tags with
  | case1 => rfl
  | case2 t rest ih => rw [List.foldr_cons, ih, List.map_append, place_note, List.map_cons]

theorem copy_eq_document (contents : List Tree) : copy contents = .document (Tree.nodes contents) := by
  unfold copy
  dsimp only
  rw [foldr_place_visit, ← List.map_reverse, List.reverse_reverse, fill_slots]

end MarkupCode.Html
