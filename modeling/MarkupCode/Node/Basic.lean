import MarkupCode.Entries
import MarkupCode.Text.Case

/-!
# Nodes

A node of the simplified document tree: its kind, a name and attributes for elements and scripts, a
text for texts and inert strings, and children. The three makers build the kinds that carry content;
an element whose name is `script` in any case is a script. `preorder` lists a tree root first with
the depth of every node.
-/

namespace MarkupCode

abbrev Attributes := List (Text × Text)

inductive Kind
  | document
  | element
  | text
  | script
  | other
  /-- A kind that renders nothing, known only by its label. -/
  | unknown (label : Text)
  deriving DecidableEq, Repr

def Kind.ofLabel (label : Text) : Kind :=
  if label = "document".toList then .document
  else if label = "element".toList then .element
  else if label = "text".toList then .text
  else if label = "script".toList then .script
  else if label = "other".toList then .other
  else .unknown label

def Kind.label : Kind → Text
  | .document => "document".toList
  | .element => "element".toList
  | .text => "text".toList
  | .script => "script".toList
  | .other => "other".toList
  | .unknown label => label

@[simp] theorem Kind.label_ofLabel (label : Text) : (Kind.ofLabel label).label = label := by
  unfold Kind.ofLabel
  split
  · next h => exact h.symm
  split
  · next h => exact h.symm
  split
  · next h => exact h.symm
  split
  · next h => exact h.symm
  split
  · next h => exact h.symm
  rfl

structure Node where
  kind : Kind
  name : Text := []
  attrs : Attributes := []
  children : List Node := []
  text : Text := []
  deriving Repr

namespace Node

def document (children : List Node) : Node := { kind := .document, children }

def elementKind (name : Text) : Kind :=
  if Text.lower name = "script".toList then .script else .element

theorem elementKind_cases (name : Text) : elementKind name = .script ∨ elementKind name = .element := by
  unfold elementKind
  split
  · exact .inl rfl
  · exact .inr rfl

def element (name : Text) (attrs : Attributes := []) (children : List Node := []) : Node :=
  { kind := elementKind name, name, attrs, children }

def ofText (text : Text) : Node := { kind := .text, text }

def inert (text : Text) : Node := { kind := .other, text }

mutual
/-- The number of stack entries that a traversal of the tree can ever push. -/
def weight : Node → Nat
  | ⟨_, _, _, children, _⟩ => 2 + weights children

def weights : List Node → Nat
  | [] => 0
  | c :: cs => 1 + c.weight + weights cs
end

theorem weight_eq (n : Node) : n.weight = 2 + weights n.children := by
  cases n; rfl

theorem weights_filter_le (p : Node → Bool) (ns : List Node) :
    weights (ns.filter p) ≤ weights ns := by
  induction ns with
  | nil => simp
  | cons c cs ih =>
    by_cases h : p c
    · simp only [List.filter_cons_of_pos h, weights]; omega
    · simp only [List.filter_cons_of_neg h, weights]; omega

/-- Proof by induction over a tree: a property that passes from the children of a node to the node
holds of every node. -/
theorem induction {P : Node → Prop} (step : ∀ n : Node, (∀ c ∈ n.children, P c) → P n)
    (n : Node) : P n := by
  refine Node.rec (motive_1 := P) (motive_2 := fun cs => ∀ c ∈ cs, P c) ?_ ?_ ?_ n
  · exact fun _ _ _ _ _ ih => step _ ih
  · simp
  · intro c cs hc hcs d hd
    rcases List.mem_cons.1 hd with rfl | hd
    · exact hc
    · exact hcs d hd

mutual
def preorder (depth : Nat) : Node → List (Nat × Node)
  | ⟨kind, name, attrs, children, text⟩ =>
    (depth, ⟨kind, name, attrs, children, text⟩) :: preorderAll (depth + 1) children

def preorderAll (depth : Nat) : List Node → List (Nat × Node)
  | [] => []
  | c :: cs => preorder depth c ++ preorderAll depth cs
end

mutual
def find? (p : Node → Bool) : Node → Option Node
  | ⟨kind, name, attrs, children, text⟩ =>
    if p ⟨kind, name, attrs, children, text⟩ then some ⟨kind, name, attrs, children, text⟩
    else findAll? p children

def findAll? (p : Node → Bool) : List Node → Option Node
  | [] => none
  | c :: cs => (find? p c).or (findAll? p cs)
end

end Node
end MarkupCode
