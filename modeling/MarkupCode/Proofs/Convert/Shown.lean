import Mathlib
import MarkupCode.Convert
import MarkupCode.Proofs.Code.Fragment
import MarkupCode.Proofs.Html.Copy
import MarkupCode.Proofs.Html.OpenElements

/-!
# Every text of a page is shown

The trees of a page are sound and so are the contents of its body, so the nodes made of them are kept:
writing them passes over nothing. Conversion therefore shows every text node of the page that is not
blank, once and in document order.
-/

namespace MarkupCode

open Code

namespace Html

/-- What is found in a row of trees is sound when this holds of every tree of the row. -/
theorem sound_of_findAll? {name : Text} {ts : List Tree}
    (h : ∀ t ∈ ts, ∀ contents, t.find? name = some contents → ∀ c ∈ contents, c.Sound) :
    ∀ contents, Tree.findAll? name ts = some contents → ∀ c ∈ contents, c.Sound := by
  intro contents hf
  induction ts with
  | nil => cases hf
  | cons t ts ih =>
    obtain ⟨ht, hts⟩ := List.forall_mem_cons.1 h
    rw [Tree.findAll?, Option.or_eq_some_iff] at hf
    rcases hf with hf | ⟨-, hf⟩
    · exact ht contents hf
    · exact ih hts hf

/-- The contents of a tag inside a sound tree are sound. -/
theorem Tree.Sound.find? {t : Tree} (h : t.Sound) {name : Text} :
    ∀ contents, t.find? name = some contents → ∀ c ∈ contents, c.Sound := by
  induction h with
  | @tag n found attrs hvoid htexts hsound ih =>
    intro contents hf
    rw [Tree.find?] at hf
    by_cases hn : n = name
    · rw [if_pos hn] at hf
      cases hf
      exact hsound
    · rw [if_neg hn] at hf
      exact sound_of_findAll? ih contents hf
  | string sort s =>
    intro contents hf
    cases hf
  | mark =>
    intro contents hf
    cases hf

theorem sound_chosen {page : List Tree} (h : ∀ t ∈ page, t.Sound) (bodyOnly : Bool) :
    ∀ t ∈ chosen bodyOnly page, t.Sound := by
  unfold chosen
  split
  · cases hf : Tree.findAll? "body".toList page with
    | none => exact h
    | some contents => exact sound_of_findAll? (fun t ht => (h t ht).find?) contents hf
  · exact h

theorem mem_nodes {ts : List Tree} {n : Node} (h : n ∈ Tree.nodes ts) : ∃ t ∈ ts, t.node = n := by
  rw [nodes_eq_map] at h
  exact List.mem_map.1 h

theorem Tree.IsText.exists_ofText {t : Tree} (h : t.IsText) : ∃ s, t.node = .ofText s := by
  cases t with
  | tag name attrs contents => exact h.elim
  | string sort s =>
    have hi : sort.isInert = false := h
    refine ⟨s, ?_⟩
    rw [Tree.node, stringNode, hi]
    rfl
  | mark => exact h.elim

theorem Tree.Sound.kept {t : Tree} (h : t.Sound) : Kept t.node := by
  induction h with
  | @tag name contents attrs hvoid htexts hsound ih =>
    apply Kept.element (nodeAttributes attrs)
    · intro hv
      rw [hvoid hv]
      rfl
    · intro hk n hn
      obtain ⟨t, ht, rfl⟩ := mem_nodes hn
      exact (htexts hk t ht).exists_ofText
    · intro n hn
      obtain ⟨t, ht, rfl⟩ := mem_nodes hn
      exact ih t ht
  | string sort s =>
    rw [Tree.node, stringNode]
    split
    · exact .inert s
    · exact .text s
  | mark => exact .inert []

/-- A page is read as a document of kept nodes. -/
theorem exists_kept_of_parse {bodyOnly : Bool} {html : Text} {doc : Node}
    (h : parse bodyOnly html = .ok doc) : ∃ ns, doc = .document ns ∧ ∀ n ∈ ns, Kept n := by
  obtain ⟨page, hpage, rfl⟩ := Outcome.exists_of_map_ok h
  obtain ⟨ts, hts, rfl⟩ := Outcome.exists_of_map_ok hpage
  obtain ⟨w, hw⟩ := leads_tokens hts
  refine ⟨_, copy_eq_document _, ?_⟩
  intro n hn
  obtain ⟨t, ht, rfl⟩ := mem_nodes hn
  have hsound := sound_chosen (sound_treesOf hw) bodyOnly
  exact (hsound t ht).kept

end Html

namespace Code

/-- Writing a node passes over no child: void elements have none, and scripts have texts only. -/
def PassesOverNothing (n : Node) : Prop :=
  (isVoid n.name = true → n.children = []) ∧ (n.kind = .script → ∀ c ∈ n.children, c.kind = .text)

theorem Kept.passesOverNothing {n : Node} (h : Kept n) : PassesOverNothing n := by
  cases h with
  | text s => exact ⟨fun _ => rfl, by simp [Node.ofText]⟩
  | inert s => exact ⟨fun _ => rfl, by simp [Node.inert]⟩
  | @element name children attrs hvoid hscript hkept =>
    refine ⟨hvoid, ?_⟩
    intro hk c hc
    obtain ⟨s, rfl⟩ := hscript hk c hc
    rfl

theorem passesOverNothing_preorderAll {ns : List Node}
    (h : ∀ n ∈ ns, ∀ d, ∀ p ∈ n.preorder d, PassesOverNothing p.2) (d : Nat) :
    ∀ p ∈ Node.preorderAll d ns, PassesOverNothing p.2 := by
  induction ns with
  | nil => simp [Node.preorderAll]
  | cons n ns ih =>
    obtain ⟨hn, hns⟩ := List.forall_mem_cons.1 h
    intro p hp
    rcases List.mem_append.1 hp with hp | hp
    · exact hn d p hp
    · exact ih hns p hp

theorem Kept.passesOverNothing_preorder {n : Node} (h : Kept n) :
    ∀ d, ∀ p ∈ n.preorder d, PassesOverNothing p.2 := by
  induction h with
  | text s => simpa [Node.ofText, Node.preorder, Node.preorderAll] using (Kept.text s).passesOverNothing
  | inert s => simpa [Node.inert, Node.preorder, Node.preorderAll] using (Kept.inert s).passesOverNothing
  | @element name children attrs hvoid hscript hkept ih =>
    intro d p hp
    rcases List.mem_cons.1 hp with rfl | hp
    · exact (Kept.element attrs hvoid hscript hkept).passesOverNothing
    · exact passesOverNothing_preorderAll ih (d + 1) p hp

end Code

/-- Every page that can be read becomes a document in which writing passes over nothing, and its code,
unless it overflows, is put together from fragments whose texts are the text nodes of the document that
are not blank, one for one and in order. -/
theorem convert_shows_every_text {o : Options} {html : Text} {doc : Node}
    (h : Html.parse o.bodyOnly html = .ok doc) :
    (∀ p ∈ doc.preorder 0, PassesOverNothing p.2) ∧
      (convert o html = .error (.indent .outOfRange) ∨
        ∃ fs, documentFragments o doc = .ok fs ∧ convert o html = .ok (codeOf fs) ∧
          shownOf fs = shownTexts doc) := by
  obtain ⟨ns, rfl, hkept⟩ := Html.exists_kept_of_parse h
  constructor
  · intro p hp
    rcases List.mem_cons.1 hp with rfl | hp
    · have hnone : isVoid [] ≠ true := by decide
      exact ⟨fun hv => absurd hv hnone, fun hk => nomatch hk⟩
    · apply passesOverNothing_preorderAll ?_ 1 p hp
      intro n hn
      exact (hkept n hn).passesOverNothing_preorder
  · have hconvert : convert o html = (emitDocument o (.document ns)).mapError .indent := by
      unfold convert
      rw [h]
      rfl
    rw [hconvert, ← map_documentFragments]
    cases hfs : documentFragments o (.document ns) with
    | error e =>
      cases e
      exact .inl rfl
    | ok fs => exact .inr ⟨fs, rfl, rfl, shownOf_documentFragments hkept hfs⟩

def mixedPage : Text := "</br>a<br>b</br><script>c<i></script>".toList

def mixedNode : Node :=
  .document [.ofText "a".toList, .element "br".toList, .ofText "b".toList,
    .element "script".toList [] [.ofText "c<i>".toList]]

theorem parse_mixedPage : Html.parse false mixedPage = .ok mixedNode := by
  have hpass : Html.pass false none mixedPage = .ok ⟨[.endTag "br".toList, .text "a".toList,
      .startTag "br".toList [], .text "b".toList, .endTag "br".toList, .startTag "script".toList [],
      .text "c<i>".toList, .endTag "script".toList], none, []⟩ := by
    rw [Html.pass_of_advance (p := ⟨[.endTag "br".toList], none,
      "a<br>b</br><script>c<i></script>".toList⟩) (by decide) (by cbv)]
    rw [Html.pass_of_advance (p := ⟨[.text "a".toList, .startTag "br".toList []], none,
      "b</br><script>c<i></script>".toList⟩) (by decide) (by cbv)]
    rw [Html.pass_of_advance (p := ⟨[.text "b".toList, .endTag "br".toList], none,
      "<script>c<i></script>".toList⟩) (by decide) (by cbv)]
    rw [Html.pass_of_advance (p := ⟨[.startTag "script".toList []], some "script".toList,
      "c<i></script>".toList⟩) (by decide) (by cbv)]
    rw [Html.pass_of_advance (p := ⟨[.text "c<i>".toList, .endTag "script".toList], none, []⟩)
      (by decide) (by cbv)]
    rw [Html.pass_nil]
    rfl
  unfold Html.parse Html.trees Html.tokens
  rw [hpass]
  change ((Html.pass true none []).bind _ |>.map _).map _ = _
  rw [Html.pass_nil]
  change Except.ok (Html.copy _) = _
  rw [Html.copy_eq_document]
  rfl

theorem convert_shows_every_text_mixedPage :
    Html.parse false mixedPage = .ok mixedNode ∧
      (∀ p ∈ mixedNode.preorder 0, PassesOverNothing p.2) ∧
      (convert {} mixedPage = .error (.indent .outOfRange) ∨
        ∃ fs, documentFragments {} mixedNode = .ok fs ∧ convert {} mixedPage = .ok (codeOf fs) ∧
          shownOf fs = shownTexts mixedNode) :=
  ⟨parse_mixedPage, convert_shows_every_text (o := {}) parse_mixedPage⟩

end MarkupCode
