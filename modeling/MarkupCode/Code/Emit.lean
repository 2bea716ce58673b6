import MarkupCode.Code.Attribute
import MarkupCode.Options.Basic

/-!
# Code of a tree

An element becomes a constructor with an attribute list and a child list; a void element has no child
list, a script has its own text literals as children, and a node of any kind without content renders
nothing. The tree is walked with a stack of pending items, each a subtree at its level or literal
text that separates and closes, so a tree may be as deep as memory allows. Writing fails only when
the width of an indentation that has to be written is beyond a signed 64-bit number.
-/

namespace MarkupCode.Code

inductive IndentError
  | outOfRange
  deriving DecidableEq, Repr

def fitsIndex (width : Int) : Prop := -0x8000000000000000 ≤ width ∧ width < 0x8000000000000000

instance (width : Int) : Decidable (fitsIndex width) :=
  inferInstanceAs (Decidable (_ ∧ _))

/-- The spaces in front of a line at a level; none at a negative level. -/
def indentation (o : Options) (level : Int) : Except IndentError Text :=
  let width := level * o.indentSize
  if fitsIndex width then .ok (List.replicate width.toNat ' ') else .error .outOfRange

def voidElements : List Text :=
  ["link", "meta", "input", "img", "br", "hr", "area", "base", "col", "embed", "source", "track",
   "wbr"].map String.toList

def isVoid (name : Text) : Bool := Text.lower name ∈ voidElements

/-- A bracketed list of the codes that are not empty, one a line, inside an item at `level`. -/
def childList (o : Options) (level : Int) (codes : List Text) : Except IndentError Text :=
  match codes.filter (· ≠ []) with
  | [] => .ok "[]".toList
  | shown => do
    let inner ← indentation o (level + 1)
    let outer ← indentation o level
    .ok ("[\n".toList ++ ['\n'].intercalate (shown.map (inner ++ ·)) ++ '\n' :: outer ++ [']'])

def headCode (name : Text) (attrs : Attributes) : Text :=
  '_' :: name ++ ' ' :: attributeList (attributeCodes attrs)

def scriptTexts (n : Node) : List Text :=
  (n.children.filter (·.kind = .text)).map fun c => textCode calm c.text

def scriptCode (o : Options) (level : Int) (n : Node) : Except IndentError Text := do
  let body ← childList o level (scriptTexts n)
  .ok (headCode "script".toList n.attrs ++ ' ' :: body)

/-- A child of this sort takes a line in a child list. -/
def renders (n : Node) : Bool :=
  match n.kind with
  | .text => Text.strip n.text ≠ []
  | .element | .script => true
  | _ => false

def isShownText (n : Node) : Bool := n.kind = .text && Text.strip n.text ≠ []

inductive Pending
  | subtree (node : Node) (level : Int)
  | literal (text : Text)

namespace Pending

def weight : Pending → Nat
  | subtree n _ => n.weight
  | literal _ => 1

def weights : List Pending → Nat
  | [] => 0
  | item :: items => item.weight + weights items

theorem weights_append (items more : List Pending) :
    weights (items ++ more) = weights items + weights more := by
  induction items with
  | nil => exact (Nat.zero_add _).symm
  | cons item items ih => rw [List.cons_append, weights, weights, ih, Nat.add_assoc]

end Pending

def childItems (inner outer : Text) (level : Int) (shown : List Node) : List Pending :=
  shown.flatMap (fun c => [.literal ('\n' :: inner), .subtree c (level + 1)]) ++
    [.literal ('\n' :: outer ++ [']'])]

/-- What a node writes at once, and what it leaves pending. -/
def openNode (o : Options) (level : Int) (n : Node) : Except IndentError (Text × List Pending) :=
  match n.kind with
  | .text => .ok (textCode escape n.text, [])
  | .script => do .ok (← scriptCode o level n, [])
  | .element =>
    if isVoid n.name then .ok (headCode n.name n.attrs, [])
    else match n.children.filter renders with
      | [] => .ok (headCode n.name n.attrs ++ " []".toList, [])
      | shown => do
        let inner ← indentation o (level + 1)
        let outer ← indentation o level
        .ok (headCode n.name n.attrs ++ " [".toList, childItems inner outer level shown)
  | _ => .ok ([], [])

theorem childItems_cons (inner outer : Text) (level : Int) (c : Node) (cs : List Node) :
    childItems inner outer level (c :: cs) =
      .literal ('\n' :: inner) :: .subtree c (level + 1) :: childItems inner outer level cs := by
  simp [childItems]

theorem weights_childItems (inner outer : Text) (level : Int) (shown : List Node) :
    Pending.weights (childItems inner outer level shown) = Node.weights shown + 1 := by
  induction shown with
  | nil => rfl
  | cons c cs ih =>
    rw [childItems_cons, Pending.weights, Pending.weights, Pending.weight, Pending.weight, ih, Node.weights]
    omega

theorem weights_openNode {o : Options} {level : Int} {n : Node} {code : Text}
    {items : List Pending} (h : openNode o level n = .ok (code, items)) :
    Pending.weights items < n.weight := by
  have hpos : 2 ≤ n.weight := by rw [n.weight_eq]; omega
  have hnil : Pending.weights [] < n.weight := by rw [Pending.weights]; omega
  unfold openNode at h
  split at h
  · cases h; exact hnil
  · cases hs : scriptCode o level n with
    | error e => rw [hs] at h; cases h
    | ok s => rw [hs] at h; cases h; exact hnil
  · split at h
    · cases h; exact hnil
    · split at h
      · cases h; exact hnil
      · cases hi : indentation o (level + 1) with
        | error e => rw [hi] at h; cases h
        | ok inner =>
          cases ho : indentation o level with
          | error e => rw [hi, ho] at h; cases h
          | ok outer =>
            rw [hi, ho] at h
            cases h
            rw [weights_childItems, n.weight_eq]
            have := Node.weights_filter_le renders n.children
            omega
  · cases h; exact hnil

/-- Works off the stack; `written` holds the texts written so far, last first. -/
def run (o : Options) (written : List Text) : List Pending → Except IndentError Text
  | [] => .ok written.reverse.flatten
  | .literal s :: rest => run o (s :: written) rest
  | .subtree n level :: rest =>
    match _h : openNode o level n with
    | .error e => .error e
    | .ok (code, items) => run o (code :: written) (items ++ rest)
termination_by items => Pending.weights items
decreasing_by
  · rw [Pending.weights, Pending.weight]
    omega
  · have := weights_openNode _h
    rw [Pending.weights_append, Pending.weights, Pending.weight]
    omega

/-- The code of a subtree, `level` elements deep; its first line is not indented. -/
def emitNode (o : Options) (level : Int) (n : Node) : Except IndentError Text :=
  run o [] [.subtree n level]

def emitDocument (o : Options) (doc : Node) : Except IndentError Text := do
  let codes ← doc.children.mapM (emitNode o 0)
  .ok (['\n'].intercalate (codes.filter (· ≠ [])))

end MarkupCode.Code
