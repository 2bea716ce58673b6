import MarkupCode.Code.Emit

/-!
# Blocks

A block is a node whose code has a child list of several lines: an element that is not void and has a
child that renders, or a script with a text that is not blank. Only blocks need indentations. `Reached`
tells which nodes of a tree are written, and how many elements deep, and `IsTooWide` whether a block
among them is written beyond the widest indentation.
-/

namespace MarkupCode.Code

def isBlock (n : Node) : Bool :=
  match n.kind with
  | .element => !isVoid n.name && n.children.any renders
  | .script => n.children.any isShownText
  | _ => false

/-- The nodes that are written in the code of a tree, with their levels. -/
inductive Reached (root : Node) : Nat → Node → Prop
  | root : Reached root 0 root
  | child {level : Nat} {n c : Node} : Reached root level n → n.kind = .element →
    isBlock n → c ∈ n.children → renders c → Reached root (level + 1) c

def maxIndex : Nat := 0x7fffffffffffffff

/-- A block of the tree, written from a depth on, has lines that no indentation reaches. -/
def IsTooWide (o : Options) (depth : Nat) (root : Node) : Prop :=
  ∃ level n, Reached root level n ∧ isBlock n ∧ maxIndex < (depth + level + 1) * o.indentSize

end MarkupCode.Code
