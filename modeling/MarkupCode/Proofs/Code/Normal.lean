import Mathlib.Data.List.Flatten
import MarkupCode.Code.Normal
import MarkupCode.Proofs.Code.Fragment
import MarkupCode.Proofs.Text.Blank

/-!
# Only what renders is written

A tree and its normal form have the same code at every level, failures included, and a normal form is its
own. A document may be any node: what is written are its children. So a document and its normal form have
the same code exactly when the normal form keeps all children that render (`KeepsChildren`); a void element
loses them to its normal form, though as a document it would show them.
-/

namespace MarkupCode.Code

theorem normalAll_eq_map (ns : List Node) : normalAll ns = (ns.filter renders).map normal := by
  induction ns with
  | nil => rfl
  | cons n ns ih =>
    by_cases hr : renders n = true
    · rw [normalAll, if_pos hr, List.filter_cons_of_pos hr, List.map_cons, ih]
    · rw [normalAll, if_neg hr, List.filter_cons_of_neg hr, ih]

theorem kind_normal (n : Node) : (normal n).kind = n.kind := by
  obtain ⟨kind, name, attrs, children, text⟩ := n
  cases kind <;> rfl

theorem renders_normal (n : Node) : renders (normal n) = renders n := by
  obtain ⟨kind, name, attrs, children, text⟩ := n
  cases kind with
  | text => simp only [normal, renders, Text.strip_strip]
  | _ => rfl

theorem filter_renders_map_normal (ns : List Node) :
    (ns.map normal).filter renders = (ns.filter renders).map normal := by
  rw [List.filter_map]
  exact congrArg (List.map normal) (List.filter_congr fun n _ => renders_normal n)

/-- Every node in a row of normal forms renders. -/
theorem filter_renders_normalAll (ns : List Node) : (normalAll ns).filter renders = normalAll ns := by
  rw [normalAll_eq_map, filter_renders_map_normal, List.filter_filter]
  simp only [Bool.and_self]

/-! ### Attributes and texts -/

theorem attributeCode_blank {name : Text} (h : name ∈ booleanAttributes) (value value' : Text) :
    attributeCode name value = attributeCode name value' := by
  rw [attributeCode, attributeCode, if_pos h, if_pos h]

theorem attributeCodes_normalAttributes (attrs : Attributes) :
    attributeCodes (normalAttributes attrs) = attributeCodes attrs := by
  unfold attributeCodes normalAttributes
  rw [List.map_map]
  apply List.map_congr_left
  intro a _
  by_cases h : a.1 ∈ booleanAttributes
  · exact attributeCode_blank h _ _
  · simp only [Function.comp, if_neg h]

theorem headCode_normalAttributes (name : Text) (attrs : Attributes) :
    headCode name (normalAttributes attrs) = headCode name attrs := by
  rw [headCode, headCode, attributeCodes_normalAttributes]

theorem normalAttributes_normalAttributes (attrs : Attributes) :
    normalAttributes (normalAttributes attrs) = normalAttributes attrs := by
  unfold normalAttributes
  rw [List.map_map]
  apply List.map_congr_left
  intro a _
  by_cases h : a.1 ∈ booleanAttributes <;> simp [h]

theorem textCode_strip (escaping : Text → Text) (s : Text) :
    textCode escaping (Text.strip s) = textCode escaping s := by
  rw [textCode, textCode, Text.strip_strip]

/-- The texts that a script keeps are those that it shows. -/
theorem filter_text_normalAll (ns : List Node) :
    (normalAll ns).filter (·.kind = .text) = (ns.filter isShownText).map normal := by
  rw [normalAll_eq_map, List.filter_map, List.filter_filter]
  refine congrArg (List.map normal) (List.filter_congr ?_)
  intro n _
  simp only [Function.comp, kind_normal]
  by_cases hk : n.kind = .text
  · simp [hk, renders, isShownText]
  · simp [hk, isShownText]

theorem text_normal {n : Node} (hk : n.kind = .text) : (normal n).text = Text.strip n.text := by
  obtain ⟨kind, name, attrs, children, text⟩ := n
  cases hk
  rfl

theorem scriptTexts_normal (name : Text) (attrs : Attributes) (children : List Node) (text : Text) :
    scriptTexts (normal ⟨.script, name, attrs, children, text⟩) =
      (scriptTexts ⟨.script, name, attrs, children, text⟩).filter (· ≠ []) := by
  rw [scriptTexts_filter, scriptTexts, normal]
  dsimp only
  rw [List.filter_filter]
  simp only [Bool.and_self]
  rw [filter_text_normalAll, List.map_map]
  apply List.map_congr_left
  intro c hc
  have hk : c.kind = .text := by
    have hshown := (List.mem_filter.1 hc).2
    rw [isShownText, Bool.and_eq_true] at hshown
    exact of_decide_eq_true hshown.1
  rw [Function.comp, text_normal hk, textCode_strip]

/-! ### Codes -/

theorem layouts_map_normal {o : Options} {level : Int} {ns : List Node}
    (h : ∀ n ∈ ns, layout o level (normal n) = layout o level n) :
    layouts o level (ns.map normal) = layouts o level ns := by
  induction ns with
  | nil => rfl
  | cons n ns ih =>
    obtain ⟨hn, hns⟩ := List.forall_mem_cons.1 h
    rw [List.map_cons, layouts, layouts, hn, ih hns]

theorem layout_normal (o : Options) (n : Node) : ∀ level, layout o level (normal n) = layout o level n := by
  induction n using Node.induction with
  | step n ih =>
    intro level
    obtain ⟨kind, name, attrs, children, text⟩ := n
    cases kind with
    | text => exact congrArg Except.ok (textCode_strip escape text)
    | script =>
      have htexts := scriptTexts_normal name attrs children text
      rw [normal] at htexts ⊢
      rw [layout, layout, scriptCode, scriptCode, headCode_normalAttributes, htexts, childList_filter]
    | element =>
      by_cases hv : isVoid name
      · rw [normal, layout, layout, if_pos hv, if_pos hv, headCode_normalAttributes]
      · have hrow : layouts o (level + 1) (normalAll children) =
            layouts o (level + 1) (children.filter renders) := by
          rw [normalAll_eq_map]
          exact layouts_map_normal fun c hc => ih c (List.mem_filter.1 hc).1 (level + 1)
        rw [normal, layout, layout, if_neg hv, if_neg hv, headCode_normalAttributes, ← bind_assoc,
          ← bind_assoc, if_neg hv, hrow, bind_childList_filter]
    | document => rfl
    | other => rfl
    | unknown label => rfl

/-! ### Normal forms of normal forms -/

theorem normalAll_normalAll {ns : List Node} (h : ∀ n ∈ ns, normal (normal n) = normal n) :
    normalAll (normalAll ns) = normalAll ns := by
  rw [normalAll_eq_map (normalAll ns), filter_renders_normalAll, normalAll_eq_map, List.map_map]
  apply List.map_congr_left
  intro n hn
  exact h n (List.mem_filter.1 hn).1

theorem isShownText_normal (n : Node) : isShownText (normal n) = isShownText n := by
  obtain ⟨kind, name, attrs, children, text⟩ := n
  cases kind with
  | text => simp only [normal, isShownText, Text.strip_strip]
  | _ => rfl

/-- Normalising the texts that a script keeps once more changes nothing. -/
theorem filter_text_normalAll_normalAll {ns : List Node} (h : ∀ n ∈ ns, normal (normal n) = normal n) :
    (normalAll ((normalAll ns).filter (·.kind = .text))).filter (·.kind = .text) =
      (normalAll ns).filter (·.kind = .text) := by
  have hshown : ∀ n ∈ ns.filter isShownText, isShownText (normal n) = true := by
    intro n hn
    rw [isShownText_normal]
    exact (List.mem_filter.1 hn).2
  have hrow : ((ns.filter isShownText).map normal).filter isShownText =
      (ns.filter isShownText).map normal := by
    rw [List.filter_eq_self]
    exact List.forall_mem_map.2 hshown
  rw [filter_text_normalAll, filter_text_normalAll, hrow, List.map_map]
  apply List.map_congr_left
  intro n hn
  exact h n (List.mem_filter.1 hn).1

theorem normal_normal (n : Node) : normal (normal n) = normal n := by
  induction n using Node.induction with
  | step n ih =>
    obtain ⟨kind, name, attrs, children, text⟩ := n
    have hrow := normalAll_normalAll ih
    cases kind with
    | text => simp only [normal, Text.strip_strip]
    | script =>
      have htexts := filter_text_normalAll_normalAll ih
      simp only [normal, normalAttributes_normalAttributes, htexts]
    | element =>
      by_cases hv : isVoid name
      · simp [normal, hv, normalAttributes_normalAttributes]
      · simp [normal, hv, normalAttributes_normalAttributes, hrow]
    | document => simp only [normal, hrow]
    | other => simp only [normal, hrow]
    | unknown label => simp only [normal, hrow]

/-! ### Documents -/

/-- The children of a node that its normal form keeps, if they render: no child of a text or of a void
element, and of a script only texts. -/
def keeps (n c : Node) : Bool :=
  match n.kind with
  | .text => false
  | .script => c.kind = .text
  | .element => !isVoid n.name
  | _ => true

/-- As a document, the node shows in its normal form all that it shows itself. -/
def KeepsChildren (n : Node) : Prop := ∀ c ∈ n.children, renders c = true → keeps n c = true

theorem children_normal (n : Node) :
    (normal n).children = ((n.children.filter renders).filter (keeps n)).map normal := by
  obtain ⟨kind, name, attrs, children, text⟩ := n
  cases kind with
  | text => simp [normal, keeps]
  | script =>
    rw [normal, normalAll_eq_map]
    dsimp only
    rw [List.filter_map]
    exact congrArg (List.map normal) (List.filter_congr fun c _ => by simp [keeps, kind_normal])
  | element => by_cases hv : isVoid name <;> simp [normal, keeps, hv, normalAll_eq_map]
  | document => simp [normal, keeps, normalAll_eq_map]
  | other => simp [normal, keeps, normalAll_eq_map]
  | unknown label => simp [normal, keeps, normalAll_eq_map]

theorem emitDocument_normal_eq_map (o : Options) (doc : Node) :
    emitDocument o (normal doc) =
      (layouts o 0 ((doc.children.filter renders).filter (keeps doc))).map ['\n'].intercalate := by
  have hrow : ((doc.children.filter renders).filter (keeps doc)).filter renders =
      (doc.children.filter renders).filter (keeps doc) := by
    rw [List.filter_eq_self]
    exact fun c hc => (List.mem_filter.1 (List.mem_filter.1 hc).1).2
  rw [emitDocument_eq_map, children_normal, filter_renders_map_normal, hrow,
    layouts_map_normal fun c _ => layout_normal o c 0]

/-- A node that keeps some of its children only keeps texts. -/
theorem kind_of_keeps {n lost c : Node} (hlost : keeps n lost ≠ true) (hc : keeps n c = true) :
    c.kind = .text := by
  obtain ⟨kind, name, attrs, children, text⟩ := n
  cases kind with
  | text => cases hc
  | script => exact of_decide_eq_true hc
  | element => exact absurd hc hlost
  | document => exact absurd rfl hlost
  | other => exact absurd rfl hlost
  | unknown label => exact absurd rfl hlost

theorem layouts_texts (o : Options) (level : Int) {ns : List Node} (h : ∀ n ∈ ns, n.kind = .text) :
    ∃ codes, layouts o level ns = .ok codes := by
  induction ns with
  | nil => exact ⟨[], rfl⟩
  | cons n ns ih =>
    obtain ⟨hn, hns⟩ := List.forall_mem_cons.1 h
    obtain ⟨codes, hcodes⟩ := ih hns
    obtain ⟨kind, name, attrs, children, text⟩ := n
    cases hn
    exact ⟨textCode escape text :: codes, by rw [layouts, hcodes]; rfl⟩

/-- Fewer nodes have fewer codes. -/
theorem layouts_filter_sublist {o : Options} {level : Int} (p : Node → Bool) {ns : List Node}
    {codes : List Text} (h : layouts o level ns = .ok codes) :
    ∃ kept, layouts o level (ns.filter p) = .ok kept ∧ kept.Sublist codes := by
  induction ns generalizing codes with
  | nil => exact ⟨codes, h, List.Sublist.refl codes⟩
  | cons n ns ih =>
    obtain ⟨code, hcode, h⟩ := Outcome.exists_of_bind_ok h
    obtain ⟨others, hothers, h⟩ := Outcome.exists_of_bind_ok h
    obtain ⟨kept, hkept, hsub⟩ := ih hothers
    rw [← Except.ok.inj h]
    by_cases hp : p n = true
    · rw [List.filter_cons_of_pos hp, layouts, hcode, hkept]
      exact ⟨code :: kept, rfl, hsub.cons_cons code⟩
    · rw [List.filter_cons_of_neg hp]
      exact ⟨kept, hkept, hsub.cons code⟩

theorem length_layouts {o : Options} {level : Int} {ns : List Node} {codes : List Text}
    (h : layouts o level ns = .ok codes) : codes.length = ns.length := by
  induction ns generalizing codes with
  | nil => rw [← Except.ok.inj h]; rfl
  | cons n ns ih =>
    obtain ⟨code, -, h⟩ := Outcome.exists_of_bind_ok h
    obtain ⟨others, hothers, h⟩ := Outcome.exists_of_bind_ok h
    rw [← Except.ok.inj h, List.length_cons, List.length_cons, ih hothers]

theorem newline_intercalate {codes : List Text} (hne : codes ≠ []) :
    '\n' :: ['\n'].intercalate codes = lines [] codes := by
  obtain ⟨code, codes, rfl⟩ := List.exists_cons_of_ne_nil hne
  rw [← newline_intercalate_map]
  simp

/-- A code that is left out leaves its line feed out. -/
theorem eq_of_lines_eq {kept codes : List Text} (hs : kept.Sublist codes)
    (h : lines [] kept = lines [] codes) : kept = codes := by
  induction hs with
  | slnil => rfl
  | @cons kept codes code hs _ =>
    have hle : (lines [] kept).length ≤ (lines [] codes).length := (hs.flatMap _).length_le
    have hlength := congrArg List.length h
    rw [lines_cons, List.length_append, List.length_cons] at hlength
    omega
  | cons_cons code hs ih =>
    rw [lines_cons, lines_cons] at h
    rw [ih (List.append_cancel_left h)]

/-- Among codes that are not empty, leaving some out shows when they stand below one another. -/
theorem eq_of_intercalate_eq {kept codes : List Text} (hs : kept.Sublist codes)
    (hf : codes.filter (· ≠ []) = codes) (h : ['\n'].intercalate kept = ['\n'].intercalate codes) :
    kept = codes := by
  by_cases hk : kept = []
  · subst hk
    exact ((intercalate_eq_nil_iff hf).1 h.symm).symm
  · have hc : codes ≠ [] := by
      rintro rfl
      exact hk (List.sublist_nil.1 hs)
    refine eq_of_lines_eq hs ?_
    rw [← newline_intercalate hk, h, newline_intercalate hc]

/-- A document and its normal form have one code exactly when no child that renders is lost. What is left
of a row that loses a child are texts, whose codes never fail and are fewer. -/
theorem emitDocument_normal_iff (o : Options) (doc : Node) :
    emitDocument o (normal doc) = emitDocument o doc ↔ KeepsChildren doc := by
  rw [emitDocument_normal_eq_map, emitDocument_eq_map]
  constructor
  · intro h c hc hr
    by_contra hlost
    have htexts : ∀ d ∈ (doc.children.filter renders).filter (keeps doc), d.kind = .text :=
      fun d hd => kind_of_keeps hlost (List.mem_filter.1 hd).2
    obtain ⟨kept, hkept⟩ := layouts_texts o 0 htexts
    rw [hkept] at h
    obtain ⟨codes, hcodes, hjoined⟩ := Outcome.exists_of_map_ok h.symm
    obtain ⟨kept', hkept', hsub⟩ := layouts_filter_sublist (keeps doc) hcodes
    obtain rfl : kept = kept' := Except.ok.inj (hkept.symm.trans hkept')
    have hequal := eq_of_intercalate_eq hsub (layouts_filter_eq_self hcodes) hjoined.symm
    have hlength : ((doc.children.filter renders).filter (keeps doc)).length =
        (doc.children.filter renders).length := by
      rw [← length_layouts hkept, hequal, length_layouts hcodes]
    exact hlost (List.length_filter_eq_length_iff.1 hlength c (List.mem_filter.2 ⟨hc, hr⟩))
  · intro h
    have hrow : (doc.children.filter renders).filter (keeps doc) = doc.children.filter renders := by
      rw [List.filter_eq_self]
      intro c hc
      obtain ⟨hc, hr⟩ := List.mem_filter.1 hc
      exact h c hc hr
    rw [hrow]

/-! ### Equal normal forms -/

/-- A tree has the code of its normal form, a document has it exactly when it keeps its children, and a
normal form is its own; so trees, or documents, with one normal form have one code. -/
theorem emit_normal_and_normal_normal (o : Options) :
    (∀ (level : Int) (n : Node), emitNode o level (normal n) = emitNode o level n) ∧
    (∀ doc, emitDocument o (normal doc) = emitDocument o doc ↔ KeepsChildren doc) ∧
    (∀ n, normal (normal n) = normal n) ∧
    (∀ n m, normal n = normal m → ∀ level, emitNode o level n = emitNode o level m) ∧
    ∀ doc other, normal doc = normal other → KeepsChildren doc → KeepsChildren other →
      emitDocument o doc = emitDocument o other := by
  have hnode (level : Int) (n : Node) : emitNode o level (normal n) = emitNode o level n := by
    rw [emitNode_eq_layout, emitNode_eq_layout, layout_normal]
  refine ⟨hnode, emitDocument_normal_iff o, normal_normal, ?_, ?_⟩
  · intro n m h level
    rw [← hnode, h, hnode]
  · intro doc other h hdoc hother
    rw [← (emitDocument_normal_iff o doc).2 hdoc, h, (emitDocument_normal_iff o other).2 hother]

def messy : Node :=
  .element "p".toList [("hidden".toList, "a".toList)]
    [.ofText " b ".toList, .inert "c".toList, .element "br".toList [] [.ofText "d".toList],
      .ofText " ".toList]

def tidy : Node :=
  .element "p".toList [("hidden".toList, [])] [.ofText "b".toList, .element "br".toList]

theorem emit_messy_eq_tidy :
    normal messy = normal tidy ∧ KeepsChildren (.document [messy]) ∧
      KeepsChildren (.document [tidy]) ∧
      emitNode {} 0 messy = emitNode {} 0 tidy ∧
      emitDocument {} (normal (.document [messy])) = emitDocument {} (.document [messy]) ∧
      emitDocument {} (.document [messy]) = emitDocument {} (.document [tidy]) := by
  have hnode : normal messy = normal tidy := rfl
  have hdoc : normal (.document [messy]) = normal (.document [tidy]) := by
    change ({ kind := .document, children := [normal messy] } : Node) = _
    rw [hnode]
    rfl
  have hmessy : KeepsChildren (.document [messy]) := fun _ _ _ => rfl
  have htidy : KeepsChildren (.document [tidy]) := fun _ _ _ => rfl
  obtain ⟨-, hnormal, -, hequal, hdocs⟩ := emit_normal_and_normal_normal {}
  exact ⟨hnode, hmessy, htidy, hequal messy tidy hnode 0, (hnormal (.document [messy])).2 hmessy,
    hdocs _ _ hdoc hmessy htidy⟩

/-- A void element shows a child when it is taken for a document, and its normal form does not. -/
theorem emitDocument_normal_void_ne :
    emitDocument {} (normal (.element "br".toList [] [.ofText "x".toList])) ≠
      emitDocument {} (.element "br".toList [] [.ofText "x".toList]) := by
  have hnormal : emitDocument {} (normal (.element "br".toList [] [.ofText "x".toList])) = .ok [] := by
    rw [emitDocument_eq_map]
    rfl
  have hself : emitDocument {} (.element "br".toList [] [.ofText "x".toList]) =
      .ok "_text \"x\"".toList := by
    rw [emitDocument_eq_map]
    rfl
  rw [hnormal, hself]
  exact fun h => absurd (Except.ok.inj h) (by decide)

end MarkupCode.Code
