import MarkupCode.Html.Growth
import MarkupCode.Proofs.Html.Copy

/-!
# What a growing document grows into

A document under way stands for the document in which the node of every waiting tag has got the rest of its
contents. Hanging up the contents of a tag keeps that, whichever tag is taken, so the grown document is the
one that the recursion on the trees gives.
-/

namespace MarkupCode

/-! ### Changes at a place -/

namespace Node

variable {f g : Node → Node}

theorem modify_congr {ns : List Node} {i : Nat} (h : ∀ n, ns[i]? = some n → f n = g n) :
    ns.modify i f = ns.modify i g := by
  induction ns generalizing i with
  | nil => rw [List.modify_nil, List.modify_nil]
  | cons n ns ih =>
    cases i with
    | zero => exact congrArg (· :: ns) (h n rfl)
    | succ i => exact congrArg (n :: ·) (ih h)

/-- Only the node that stands at the place matters. -/
theorem modifyAt_congr {place : Place} {n : Node} (h : ∀ m, n.at? place = some m → f m = g m) :
    n.modifyAt f place = n.modifyAt g place := by
  induction place generalizing n with
  | nil => exact h n rfl
  | cons i place ih =>
    have hchildren : n.children.modify i (modifyAt f place) = n.children.modify i (modifyAt g place) :=
      modify_congr fun c hc => ih fun m hm => h m (by rw [at?, hc]; exact hm)
    rw [modifyAt, modifyAt, hchildren]

theorem modifyAt_modifyAt (place : Place) (n : Node) :
    (n.modifyAt f place).modifyAt g place = n.modifyAt (g ∘ f) place := by
  induction place generalizing n with
  | nil => rfl
  | cons i place ih =>
    have hcomp : modifyAt g place ∘ modifyAt f place = modifyAt (g ∘ f) place := funext ih
    simp only [modifyAt, List.modify_modify_eq, hcomp]

theorem modifyAt_eq_self (h : ∀ n, f n = n) (place : Place) (n : Node) : n.modifyAt f place = n := by
  induction place generalizing n with
  | nil => exact h n
  | cons i place ih =>
    have hid : modifyAt f place = id := funext ih
    rw [modifyAt, hid, List.modify_id]
    cases n
    rfl

theorem modifyAt_append (place more : Place) (n : Node) :
    n.modifyAt f (place ++ more) = n.modifyAt (modifyAt f more) place := by
  induction place generalizing n with
  | nil => rfl
  | cons i place ih =>
    have htail : modifyAt f (place ++ more) = modifyAt (modifyAt f more) place := funext ih
    rw [List.cons_append, modifyAt, modifyAt, htail]

theorem extend_nil (n : Node) : n.extend [] = n := by
  rw [extend, List.append_nil]
  cases n
  rfl

theorem extend_extend (more others : List Node) (n : Node) :
    (n.extend more).extend others = n.extend (more ++ others) := by
  simp only [extend, List.append_assoc]

theorem modify_length_append (ns others : List Node) (c : Node) :
    (ns ++ c :: others).modify ns.length f = ns ++ f c :: others := by
  induction ns with
  | nil => rfl
  | cons n ns ih => exact congrArg (n :: ·) ih

/-- A node that was hung up behind the children of another one is changed where it hangs, whatever came
behind it. -/
theorem modifyAt_extend (n c : Node) (others : List Node) :
    (n.extend (c :: others)).modifyAt f [n.children.length] = n.extend (f c :: others) := by
  have hrow := modify_length_append (f := f) n.children others c
  exact congrArg (fun children => { n with children }) hrow

end Node

namespace Html

def settle (document : Node) (w : Tag × Place) : Node :=
  document.modifyAt (Node.extend (Tree.nodes w.1.contents)) w.2

namespace Growth

/-- The document that is under way, with all that its waiting tags still owe it. -/
def outcome (g : Growth) : Node := g.waiting.foldl settle g.document

def hangNodes (place : Place) (g : Growth) (ns : List Node) : Growth :=
  { g with document := g.document.modifyAt (Node.extend ns) place }

theorem hangNodes_nil (place : Place) (g : Growth) : g.hangNodes place [] = g := by
  rw [hangNodes, Node.modifyAt_eq_self Node.extend_nil]

theorem hangNodes_hangNodes (place : Place) (g : Growth) (ns ms : List Node) :
    (g.hangNodes place ns).hangNodes place ms = g.hangNodes place (ns ++ ms) := by
  have hextend : Node.extend ms ∘ Node.extend ns = Node.extend (ns ++ ms) :=
    funext (Node.extend_extend ns ms)
  simp only [hangNodes, Node.modifyAt_modifyAt, hextend]

/-- The node of a tag gets its contents where it hangs, though others have been hung behind it. -/
theorem settle_hung (document : Node) (place : Place) (t : Tag) (ns : List Node) :
    settle (document.modifyAt (Node.extend (.element t.name (nodeAttributes t.attrs) :: ns)) place)
        (t, place ++ [Node.childCount (document.at? place)]) =
      document.modifyAt (Node.extend (t.node :: ns)) place := by
  rw [settle, Node.modifyAt_append, Node.modifyAt_modifyAt]
  apply Node.modifyAt_congr
  intro m hm
  rw [hm]
  exact Node.modifyAt_extend m _ ns

/-- A tree is hung up as its finished node is, whatever comes behind it in its row. -/
theorem outcome_hang (place : Place) (g : Growth) (t : Tree) (ns : List Node) :
    ((g.hang place t).hangNodes place ns).outcome = (g.hangNodes place (t.node :: ns)).outcome := by
  cases t with
  | string sort s => exact congrArg outcome (hangNodes_hangNodes place g [stringNode sort s] ns)
  | mark => exact congrArg outcome (hangNodes_hangNodes place g [.inert []] ns)
  | tag name attrs contents =>
    have hrow := hangNodes_hangNodes place g [.element name (nodeAttributes attrs)] ns
    have hdocument := congrArg Growth.document hrow
    have hsettle := settle_hung g.document place ⟨name, attrs, contents⟩ ns
    simp only [hangNodes, List.singleton_append] at hdocument
    simp only [hangNodes, hang, outcome, List.foldl_cons, hdocument, hsettle]
    rfl

/-- Hanging up a row of trees, one by one, is hanging up their finished nodes. -/
theorem outcome_hangAll (place : Place) (g : Growth) (ts : List Tree) :
    (g.hangAll place ts).outcome = (g.hangNodes place (Tree.nodes ts)).outcome := by
  induction ts generalizing g with
  | nil => rw [hangAll, Tree.nodes, hangNodes_nil]
  | cons t ts ih => rw [hangAll, ih, outcome_hang, Tree.nodes]

end Growth

theorem grow_eq_outcome (g : Growth) : grow g = g.outcome := by
  fun_induction grow g with
  | case1 g h => rw [Growth.outcome, h]; rfl
  | case2 g t place rest h ih =>
    rw [ih, Growth.outcome_hangAll, Growth.outcome, Growth.outcome, h]
    rfl

/-- Growing a document in place and copying it by notes both give the document whose children are the nodes
of the trees, in their order. -/
theorem growCopy_eq_document (root : Tag) :
    growCopy root = .document (Tree.nodes root.contents) ∧
      copy root.contents = .document (Tree.nodes root.contents) := by
  refine ⟨?_, copy_eq_document root.contents⟩
  rw [growCopy, grow_eq_outcome]
  rfl

end Html
end MarkupCode
