import MarkupCode.Convert
import MarkupCode.Proofs.Code.Layout
import MarkupCode.Proofs.Html.Copy
import MarkupCode.Proofs.Html.WrittenTrees

/-!
# Converting written trees

The markup of a plain tree is not read back as the tree itself: empty texts are lost and white space
shrinks. The two trees agree in everything that renders, so the code is that of the tree.
-/

namespace MarkupCode

open Code

namespace Html

theorem nodeAttributes_text (attrs : Attributes) :
    nodeAttributes (attrs.map fun a => (a.1, .text a.2)) = attrs := by
  rw [nodeAttributes, List.map_map]
  exact List.map_id attrs

theorem isBlank_of_isSpace {c : Char} (h : isSpace c = true) : Text.isBlank c = true := by
  simp only [isSpace, List.mem_cons, List.not_mem_nil, or_false, decide_eq_true_eq] at h
  rcases h with rfl | rfl | rfl | rfl | rfl <;> rfl

theorem strip_eq_nil_of_forall {s : Text} (h : ∀ c ∈ s, Text.isBlank c = true) :
    Text.strip s = [] := by
  rw [Text.strip, Text.stripLeft_eq_nil_iff.2 h]
  rfl

/-- Shrinking a text leaves its code as it is. -/
theorem textCode_shrink (escaping : Text → Text) (s : Text) :
    textCode escaping (shrink s) = textCode escaping s := by
  unfold shrink
  split
  · next h =>
    have hs : Text.strip s = [] := strip_eq_nil_of_forall fun c hc =>
      isBlank_of_isSpace (List.all_eq_true.1 h c hc)
    rw [(textCode_eq_nil_iff escaping s).2 hs, textCode_eq_nil_iff]
    split <;> rfl
  · rfl

/-- Nodes with the same code where they render, at every level. -/
def Alike (ns ms : List Node) : Prop := ∀ (o : Options) (level : Int),
  layouts o level (ns.filter renders) = layouts o level (ms.filter renders)

theorem Alike.append {ns ms ns' ms' : List Node} (h : Alike ns ms) (h' : Alike ns' ms') :
    Alike (ns ++ ns') (ms ++ ms') := by
  intro o level
  have hl := h o level
  have hr := h' o level
  rw [layouts_eq_mapM, layouts_eq_mapM] at hl hr
  rw [layouts_eq_mapM, layouts_eq_mapM, List.filter_append, List.filter_append, List.mapM_append,
    List.mapM_append, hl, hr]

theorem alike_of_layout_eq {n m : Node} (h : ∀ o level, layout o level n = layout o level m) :
    Alike [n] [m] := by
  intro o level
  have hrow : layouts o level [n] = layouts o level [m] := by
    rw [layouts_eq_mapM, layouts_eq_mapM, List.mapM_cons, List.mapM_cons, h]
  rw [← layouts_filter_renders, ← layouts_filter_renders, hrow]

theorem alike_text (keep : Bool) {n : Node} (hk : n.kind = .text) :
    Alike (Tree.nodes (readBack keep n)) [n] := by
  obtain ⟨kind, name, attrs, children, text⟩ := n
  cases hk
  rw [readBack]
  by_cases hempty : text = []
  · rw [hempty]
    intro o level
    rfl
  · rw [if_neg hempty]
    apply alike_of_layout_eq
    intro o level
    apply congrArg Except.ok
    cases keep with
    | true => rfl
    | false => exact textCode_shrink escape text

/-- Elements with the same name and attributes have the same code when their children are alike. -/
theorem alike_element {name : Text} (attrs : Attributes) (text : Text) {ns ms : List Node}
    (hk : Node.elementKind name = .element) (h : Alike ns ms) :
    Alike [.element name attrs ns] [⟨.element, name, attrs, ms, text⟩] := by
  apply alike_of_layout_eq
  intro o level
  rw [Node.element, hk, layout, layout]
  by_cases hv : isVoid name
  · rw [if_pos hv, if_pos hv]
  · have hrow : layouts o (level + 1) ns >>= childList o level =
        layouts o (level + 1) ms >>= childList o level := by
      rw [← bind_childList_filter, h, bind_childList_filter]
    have hbody := congrArg (· >>= fun body =>
      (Except.ok (headCode name attrs ++ ' ' :: body) : Except IndentError Text)) hrow
    rw [if_neg hv, if_neg hv]
    simpa only [bind_assoc] using hbody

theorem alike_readBackAll (keep : Bool) {ns : List Node}
    (h : ∀ n ∈ ns, isPlain n = true → Alike (Tree.nodes (readBack keep n)) [n])
    (hp : arePlain ns = true) : Alike (Tree.nodes (readBackAll keep ns)) ns := by
  induction ns with
  | nil =>
    intro o level
    rfl
  | cons n ns ih =>
    obtain ⟨hn, hns⟩ := List.forall_mem_cons.1 h
    obtain ⟨hplain, -, hps⟩ := arePlain_cons hp
    rw [readBackAll, nodes_eq_map, List.map_append, ← nodes_eq_map, ← nodes_eq_map]
    exact (hn hplain).append (ih hns hps)

theorem alike_readBack (n : Node) :
    isPlain n = true → ∀ keep, Alike (Tree.nodes (readBack keep n)) [n] := by
  induction n using Node.induction with
  | step n ih =>
    intro hp keep
    rcases isPlain_kind hp with hk | hk
    · exact alike_text keep hk
    · obtain ⟨kind, name, attrs, children, text⟩ := n
      cases hk
      have hplain := PlainElement.of_isPlain hp
      have hkind : Node.elementKind name = .element :=
        (Node.elementKind_cases name).resolve_left
          (elementKind_ne_script hplain.plainName.lower hplain.plainName.notVerbatim)
      have hrow := alike_readBackAll (decide (name ∈ preservingElements) || keep)
        (fun c hc hpc => ih c hc hpc _) hplain.plainChildren
      have helement := alike_element attrs text hkind hrow
      rw [readBack]
      change Alike [.element name (nodeAttributes _) _] _
      rw [nodeAttributes_text]
      exact helement

end Html

/-- Converting the markup of a plain document gives the document's own code, or fails as its code
does. -/
theorem convert_written {doc : Node} (hk : doc.kind = .document)
    (hp : Html.arePlain doc.children = true) {o : Options} (ho : o.bodyOnly = false) :
    convert o (Html.written doc) = (emitDocument o doc).mapError .indent := by
  obtain ⟨kind, name, attrs, ns, text⟩ := doc
  cases hk
  have hparse : Html.parse false (Html.writtenAll ns) =
      .ok (.document (Html.Tree.nodes (Html.readBackAll false ns))) := by
    unfold Html.parse Html.trees
    rw [Html.tokens_writtenAll hp]
    change Except.ok (Html.copy (Html.treesOf (Html.tokensOfAll ns))) = _
    rw [Html.treesOf_tokensOfAll hp, Html.copy_eq_document]
  have hemit : emitDocument o (.document (Html.Tree.nodes (Html.readBackAll false ns))) =
      emitDocument o ⟨.document, name, attrs, ns, text⟩ := by
    rw [emitDocument_eq_map, emitDocument_eq_map]
    exact congrArg _ (Html.alike_readBackAll false (fun n _ h => Html.alike_readBack n h false) hp o 0)
  have hwritten : Html.written ⟨.document, name, attrs, ns, text⟩ = Html.writtenAll ns := rfl
  rw [← hemit, hwritten, convert, ho, hparse]
  rfl

/-- White space of both sorts, every character written as a reference, and an element that preserves
white space. -/
def fullDocument : Node :=
  .document [
    .element "p".toList [("data-a".toList, "say \"<&>\"".toList), ("b".toList, [])] [
      .ofText " \n\t".toList,
      .element "br".toList,
      .ofText "1 < 2 && \"3\" > '2'".toList],
    .element "pre".toList [] [.ofText "\n\n".toList, .element "b".toList [] [.ofText []]],
    .ofText "\u00a0".toList]

theorem convert_written_fullDocument :
    (fullDocument.kind = .document ∧ Html.arePlain fullDocument.children = true) ∧
      convert {} (Html.written fullDocument) = (emitDocument {} fullDocument).mapError .indent :=
  ⟨⟨rfl, by decide⟩, convert_written rfl (by decide) rfl⟩

end MarkupCode
