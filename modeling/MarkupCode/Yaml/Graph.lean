import MarkupCode.Yaml.Tag

/-!
# The graph of a document

The nodes of a document are numbered, and collections refer to their items by number: an alias makes
two collections share a node, or a collection hold itself.
-/

namespace MarkupCode.Yaml

inductive Content
  | scalar (s : Text)
  | sequence (items : List Nat)
  | mapping (entries : List (Nat × Nat))
  deriving Repr

structure Node where
  tag : Tag
  content : Content
  deriving Repr

abbrev Graph := Array Node

namespace Graph

/-- A node by its number; a number without a node gives an empty one. -/
def node (g : Graph) (id : Nat) : Node := g[id]?.getD ⟨.unknown, .scalar []⟩

def setContent (g : Graph) (id : Nat) (content : Content) : Graph :=
  g.modify id fun n => { n with content }

def setTag (g : Graph) (id : Nat) (tag : Tag) : Graph := g.modify id fun n => { n with tag }

def entries (g : Graph) (id : Nat) : List (Nat × Nat) :=
  match (g.node id).content with
  | .mapping es => es
  | _ => []

def entryCount (g : Graph) : Nat :=
  g.foldl (fun n node => match node.content with
    | .mapping es => n + es.length
    | _ => n) 0

end Graph
end MarkupCode.Yaml
