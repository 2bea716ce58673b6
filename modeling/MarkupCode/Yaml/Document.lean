import MarkupCode.Yaml.Composer
import MarkupCode.Yaml.Merge
import MarkupCode.Yaml.Scalar
import MarkupCode.Entries

/-!
# The value of a document

A document is read into its value. Scalars are read when the collection that holds them is; the
collections of a document are gone through one after the other, those found first before those found
inside them, so the first fault in that order is the one that is told. Only the outermost collection
is kept; what the others hold is checked. Collections are no keys.
-/

namespace MarkupCode.Yaml

/-- A value inside a collection; what a collection holds is not kept. -/
inductive Item
  | scalar (s : Scalar)
  | collection
  deriving DecidableEq, Repr

inductive Value
  | scalar (s : Scalar)
  | mapping (entries : List (Scalar × Item))
  /-- A sequence, a set or a list of pairs, and whether it is empty. -/
  | other (isEmpty : Bool)
  deriving DecidableEq, Repr

def Tag.isCollection (t : Tag) : Bool := t ∈ [.omap, .pairs, .set, .seq, .map]

/-- Collections met so far, each once, and those of them still to be gone through. -/
structure Progress where
  graph : Graph
  met : List Nat := []
  queue : List Nat := []

abbrev Construct := StateT Progress (Except Error)

namespace Construct

def malformed {α : Type} : Construct α := throw .malformed

/-- The value of a node; a collection is queued when it is met for the first time. -/
def item (id : Nat) : Construct Item := do
  let p ← get
  if (p.graph.node id).tag.isCollection then
    if id ∉ p.met then set { p with met := id :: p.met, queue := p.queue ++ [id] }
    return .collection
  else
    match scalarValue p.graph id with
    | .ok s => return .scalar s
    | .error e => throw e

def entry (e : Nat × Nat) : Construct (Scalar × Item) := do
  match ← item e.1 with
  | .scalar key => return (key, ← item e.2)
  | .collection => malformed

def entries (id : Nat) : Construct (List (Scalar × Item)) := do
  let p ← get
  match (p.graph.node id).content with
  | .mapping _ =>
    match p.graph.merge id with
    | .ok graph =>
      set { p with graph }
      (graph.entries id).mapM entry
    | .error e => throw e
  | _ => malformed

def items (id : Nat) : Construct (List Nat) := do
  match ((← get).graph.node id).content with
  | .sequence items => return items
  | _ => malformed

def onePair (id : Nat) : Construct Unit := do
  match ((← get).graph.node id).content with
  | .mapping [(key, value)] =>
    let _ ← item key
    let _ ← item value
  | _ => malformed

def collection (id : Nat) : Construct Value := do
  match ((← get).graph.node id).tag with
  | .map => return .mapping (Entries.ofPairs (← entries id))
  | .set => return .other ((← entries id) = [])
  | .seq =>
    let ids ← items id
    let _ ← ids.mapM item
    return .other (ids = [])
  | _ =>
    let ids ← items id
    ids.forM onePair
    return .other (ids = [])

/-- Goes through the queued collections; each is queued once, so a graph needs no more rounds than
it has nodes. -/
def drain : Nat → Construct Unit
  | 0 => return
  | fuel + 1 => do
    match (← get).queue with
    | [] => return
    | id :: rest =>
      modify fun p => { p with queue := rest }
      let _ ← collection id
      drain fuel

def root (id : Nat) : Construct Value := do
  match ← item id with
  | .scalar s => return .scalar s
  | .collection =>
    modify fun p => { p with queue := [] }
    let v ← collection id
    drain (← get).graph.size
    return v

end Construct

/-- The value of the document of a text; a text without a document has the null value. -/
def read (text : Text) : Except Error Value := do
  let (graph, root) ← compose text
  match root with
  | none => return .scalar .null
  | some id => return (← (Construct.root id).run { graph }).1

end MarkupCode.Yaml
