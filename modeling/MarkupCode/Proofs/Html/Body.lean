import Mathlib
import MarkupCode.Convert
import MarkupCode.Outcome
import MarkupCode.Proofs.Html.Copy

/-!
# The body of a page

When only the body is wanted, the trees of a page are searched for it and the contents of what is found
are copied. `Node.body?` searches the copy of the whole page instead, node by node in document order.
Searching commutes with copying, so both find the same body: what is read is the document of its
children, and nothing outside of it counts.
-/

namespace MarkupCode

namespace Node

def isNamed (name : Text) (n : Node) : Bool := n.kind = .element && n.name = name

def body? (doc : Node) : Option Node := ((doc.preorder 0).map Prod.snd).find? (isNamed "body".toList)

/-- The document of the body's children, or of all children if there is no body. -/
def bodyDocument (doc : Node) : Node := .document ((doc.body?.map Node.children).getD doc.children)

theorem find?_eq (p : Node → Bool) (n : Node) :
    n.find? p = if p n then some n else findAll? p n.children := by
  cases n
  rfl

mutual

/-- What `find?` finds comes first among the nodes with the property in document order. -/
theorem find?_eq_find?_preorder (p : Node → Bool) (d : Nat) :
    ∀ n : Node, n.find? p = ((n.preorder d).map Prod.snd).find? p
  | ⟨kind, name, attrs, children, text⟩ => by
    rw [find?, preorder, List.map_cons, List.find?_cons, findAll?_eq_find?_preorderAll p (d + 1) children]
    cases p ⟨kind, name, attrs, children, text⟩ <;> rfl

theorem findAll?_eq_find?_preorderAll (p : Node → Bool) (d : Nat) :
    ∀ ns : List Node, findAll? p ns = ((preorderAll d ns).map Prod.snd).find? p
  | [] => rfl
  | n :: ns => by
    rw [findAll?, preorderAll, List.map_append, List.find?_append, find?_eq_find?_preorder p d n,
      findAll?_eq_find?_preorderAll p d ns]

end

theorem isNamed_element {name : Text} (h : elementKind name = .element) (found : Text)
    (attrs : Attributes) (children : List Node) :
    (element found attrs children).isNamed name = decide (found = name) := by
  by_cases hn : found = name
  · subst hn
    simp [isNamed, element, h]
  · simp [isNamed, element, hn]

end Node

namespace Html

/-- Strings are no elements. -/
theorem find?_stringNode (name : Text) (sort : StringSort) (s : Text) :
    (stringNode sort s).find? (Node.isNamed name) = none := by
  rw [stringNode]
  cases sort.isInert <;> rfl

mutual

/-- Searching commutes with copying: the first element of a name has the nodes of the first tag of the
name. Scripts are not elements, so the name must not be theirs. -/
theorem find?_node {name : Text} (hname : Node.elementKind name = .element) : ∀ t : Tree,
    (t.node.find? (Node.isNamed name)).map Node.children = (t.find? name).map Tree.nodes
  | .tag found attrs contents => by
    rw [Tree.node, Node.find?_eq, Node.isNamed_element hname, Tree.find?]
    by_cases hn : found = name
    · rw [if_pos (decide_eq_true hn), if_pos hn]
      rfl
    · rw [if_neg (by simpa using hn), if_neg hn]
      exact findAll?_nodes hname contents
  | .string sort s => by
    rw [Tree.node, find?_stringNode]
    rfl
  | .mark => rfl

theorem findAll?_nodes {name : Text} (hname : Node.elementKind name = .element) : ∀ ts : List Tree,
    (Node.findAll? (Node.isNamed name) (Tree.nodes ts)).map Node.children =
      (Tree.findAll? name ts).map Tree.nodes
  | [] => rfl
  | t :: ts => by
    rw [Tree.nodes, Node.findAll?, Tree.findAll?, Option.map_or, Option.map_or, find?_node hname t,
      findAll?_nodes hname ts]

end

theorem elementKind_body : Node.elementKind "body".toList = .element := by decide

/-- A document is no body itself, so its body is found among its children. -/
theorem body?_document (ns : List Node) :
    (Node.document ns).body? = Node.findAll? (Node.isNamed "body".toList) ns :=
  (Node.find?_eq_find?_preorder _ 0 _).symm

theorem nodes_chosen (page : List Tree) :
    Node.document (Tree.nodes (chosen true page)) = (Node.document (Tree.nodes page)).bodyDocument := by
  rw [Node.bodyDocument, body?_document, findAll?_nodes elementKind_body, chosen, if_pos rfl]
  cases Tree.findAll? "body".toList page <;> rfl

/-- Reading the body alone is reading the page and taking the body from what was read. -/
theorem parse_true (html : Text) : parse true html = (parse false html).map Node.bodyDocument := by
  unfold parse
  cases trees html with
  | error e => rfl
  | ok page =>
    change Except.ok (copy (chosen true page)) = .ok (copy page).bodyDocument
    rw [copy_eq_document, copy_eq_document, nodes_chosen]

theorem exists_document_of_parse {bodyOnly : Bool} {html : Text} {doc : Node}
    (h : parse bodyOnly html = .ok doc) : ∃ ns, doc = .document ns := by
  obtain ⟨page, -, rfl⟩ := Outcome.exists_of_map_ok h
  exact ⟨_, copy_eq_document _⟩

theorem parse_true_of_body {html : Text} {doc b : Node} (h : parse false html = .ok doc)
    (hb : doc.body? = some b) : parse true html = .ok (.document b.children) := by
  rw [parse_true, h, Except.map, Node.bodyDocument, hb]
  rfl

theorem parse_true_of_no_body {html : Text} {doc : Node} (h : parse false html = .ok doc)
    (hb : doc.body? = none) : parse true html = .ok doc := by
  obtain ⟨ns, rfl⟩ := exists_document_of_parse h
  rw [parse_true, h, Except.map, Node.bodyDocument, hb]
  rfl

/-- A page that one pass reads to its end. -/
theorem parse_of_pass {html : Text} {read : List Token}
    (h : pass false none html = .ok ⟨read, none, []⟩) :
    parse false html = .ok (.document (Tree.nodes (treesOf read))) := by
  have htokens : tokens html = .ok read := by
    rw [tokens, h]
    change (pass true none []).bind _ = _
    rw [pass_nil]
    exact congrArg Except.ok (by simp [textTokens])
  rw [parse, trees, htokens]
  exact congrArg Except.ok (copy_eq_document _)

end Html

open Code

theorem convert_of_parse {o : Options} {bodyOnly : Bool} (ho : o.bodyOnly = bodyOnly) {html : Text}
    {doc : Node} (h : Html.parse bodyOnly html = .ok doc) :
    convert o html = (emitDocument o doc).mapError .indent := by
  rw [convert, ho, h]
  rfl

/-- Of a page that is read as `doc`, the body alone is read as the document of the children of the first
`body` in it, and as `doc` itself if it has none. So conversion of the body writes those children, and
pages whose bodies have the same children get the same code. -/
theorem convert_body_only {html : Text} {doc : Node} (h : Html.parse false html = .ok doc) :
    (∀ b, doc.body? = some b → Html.parse true html = .ok (.document b.children)) ∧
      (doc.body? = none → Html.parse true html = .ok doc) ∧
      (∀ o : Options, o.bodyOnly = true →
        (∀ b, doc.body? = some b →
          convert o html = (emitDocument o (.document b.children)).mapError .indent) ∧
        (doc.body? = none → convert o html = (emitDocument o doc).mapError .indent)) ∧
      ∀ (o : Options) (html' : Text) (doc' b b' : Node), o.bodyOnly = true →
        Html.parse false html' = .ok doc' → doc.body? = some b → doc'.body? = some b' →
          b.children = b'.children → convert o html = convert o html' := by
  refine ⟨fun b hb => Html.parse_true_of_body h hb, Html.parse_true_of_no_body h,
    fun o ho => ⟨?_, ?_⟩, ?_⟩
  · exact fun b hb => convert_of_parse ho (Html.parse_true_of_body h hb)
  · exact fun hb => convert_of_parse ho (Html.parse_true_of_no_body h hb)
  · intro o html' doc' b b' ho h' hb hb' hsame
    rw [convert_of_parse ho (Html.parse_true_of_body h hb),
      convert_of_parse ho (Html.parse_true_of_body h' hb'), hsame]

def doubleBody : Node :=
  .element "body".toList [] [.ofText "a".toList, .element "body".toList [] [.ofText "b".toList]]

def doublePage : Text := "<body>a<body>b</body></body>".toList

/-- The same body behind a text and inside of another element. -/
def coveredPage : Text := "c<p>".toList ++ doublePage

def coveredNode : Node :=
  .document [.ofText "c".toList, .element "p".toList [] [doubleBody]]

theorem pass_doublePage : Html.pass false none doublePage = .ok ⟨[.startTag "body".toList [],
    .text "a".toList, .startTag "body".toList [], .text "b".toList, .endTag "body".toList,
    .endTag "body".toList], none, []⟩ := by
  rw [Html.pass_of_advance (p := ⟨[.startTag "body".toList []], none,
    "a<body>b</body></body>".toList⟩) (by decide) (by cbv)]
  rw [Html.pass_of_advance (p := ⟨[.text "a".toList, .startTag "body".toList []], none,
    "b</body></body>".toList⟩) (by decide) (by cbv)]
  rw [Html.pass_of_advance (p := ⟨[.text "b".toList, .endTag "body".toList], none,
    "</body>".toList⟩) (by decide) (by cbv)]
  rw [Html.pass_of_advance (p := ⟨[.endTag "body".toList], none, []⟩) (by decide) (by cbv)]
  rw [Html.pass_nil]
  rfl

theorem parse_doublePage : Html.parse false doublePage = .ok (.document [doubleBody]) :=
  Html.parse_of_pass pass_doublePage

theorem parse_coveredPage : Html.parse false coveredPage = .ok coveredNode := by
  have hpass : Html.pass false none coveredPage = (Html.pass false none doublePage).map _ :=
    Html.pass_of_advance (p := ⟨[.text "c".toList, .startTag "p".toList []], none, doublePage⟩)
      (by decide) (by cbv)
  rw [pass_doublePage] at hpass
  exact Html.parse_of_pass hpass

theorem convert_body_only_coveredPage :
    Html.parse false coveredPage = .ok coveredNode ∧
      Html.parse true coveredPage = .ok (.document doubleBody.children) ∧
      convert { bodyOnly := true } coveredPage = convert { bodyOnly := true } doublePage :=
  have ⟨hparse, _, _, hsame⟩ := convert_body_only parse_coveredPage
  ⟨parse_coveredPage, hparse _ rfl, hsame _ _ _ _ _ rfl parse_doublePage rfl rfl rfl⟩

end MarkupCode
