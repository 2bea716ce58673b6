import MarkupCode.Code.Block
import MarkupCode.Proofs.Code.Fragment

/-!
# Codes that are too wide

Writing fails at an indentation only, the child list of a block is the only place for one, and of its two
indentations the inner one is the wider. What is written below a block is what is reached from its children
that render. So the code of a tree fails exactly when the tree is too wide, and then also at every greater
depth and with every greater size of a level.
-/

namespace MarkupCode.Code

/-! ### Reached nodes -/

section

variable {o : Options} {depth : Nat} {n c m : Node} {level : Nat}

/-- What is reached from a child that is written is reached from its parent, one level deeper. -/
theorem Reached.of_child (hk : n.kind = .element) (hb : isBlock n) (hc : c ∈ n.children)
    (hr : renders c) (h : Reached c level m) : Reached n (level + 1) m := by
  induction h with
  | root => exact .child .root hk hb hc hr
  | child _ hk' hb' hc' hr' ih => exact .child ih hk' hb' hc' hr'

theorem reached_iff :
    Reached n level m ↔ level = 0 ∧ m = n ∨
      ∃ below, level = below + 1 ∧ n.kind = .element ∧ isBlock n ∧
        ∃ c ∈ n.children, renders c ∧ Reached c below m := by
  constructor
  · intro h
    induction h with
    | root => exact .inl ⟨rfl, rfl⟩
    | @child level p c _ hk hb hc hr ih =>
      obtain ⟨rfl, rfl⟩ | ⟨below, rfl, hkn, hbn, d, hd, hrd, hreach⟩ := ih
      · exact .inr ⟨0, rfl, hk, hb, c, hc, hr, .root⟩
      · exact .inr ⟨below + 1, rfl, hkn, hbn, d, hd, hrd, .child hreach hk hb hc hr⟩
  · rintro (⟨rfl, rfl⟩ | ⟨below, rfl, hk, hb, c, hc, hr, hreach⟩)
    · exact .root
    · exact hreach.of_child hk hb hc hr

/-- A block is too wide by its own lines, or by a child that is written in it. -/
theorem isTooWide_iff :
    IsTooWide o depth n ↔ isBlock n ∧ (maxIndex < (depth + 1) * o.indentSize ∨
      n.kind = .element ∧ ∃ c ∈ n.children, renders c ∧ IsTooWide o (depth + 1) c) := by
  constructor
  · rintro ⟨level, m, hreach, hm, hwide⟩
    obtain ⟨rfl, rfl⟩ | ⟨below, rfl, hk, hb, c, hc, hr, hreach⟩ := reached_iff.1 hreach
    · exact ⟨hm, .inl hwide⟩
    · have hdepth : depth + (below + 1) + 1 = depth + 1 + below + 1 := by omega
      rw [hdepth] at hwide
      exact ⟨hb, .inr ⟨hk, c, hc, hr, below, m, hreach, hm, hwide⟩⟩
  · rintro ⟨hb, hwide | ⟨hk, c, hc, hr, level, m, hreach, hm, hwide⟩⟩
    · exact ⟨0, n, .root, hb, hwide⟩
    · have hdepth : depth + 1 + level + 1 = depth + (level + 1) + 1 := by omega
      rw [hdepth] at hwide
      exact ⟨level + 1, m, hreach.of_child hk hb hc hr, hm, hwide⟩

/-- What is too wide stays so further in and with wider levels. -/
theorem IsTooWide.mono {o' : Options} {depth' : Nat} (hd : depth' ≤ depth)
    (hs : o'.indentSize ≤ o.indentSize) (h : IsTooWide o' depth' n) : IsTooWide o depth n := by
  obtain ⟨level, m, hreach, hm, hwide⟩ := h
  have hle : (depth' + level + 1) * o'.indentSize ≤ (depth + level + 1) * o.indentSize :=
    Nat.mul_le_mul (by omega) hs
  exact ⟨level, m, hreach, hm, Nat.lt_of_lt_of_le hwide hle⟩

end

/-! ### Codes that can be written -/

variable {o : Options} {depth : Nat}

theorem fitsIndex_natCast {width : Nat} : fitsIndex (width : Int) ↔ width ≤ maxIndex := by
  unfold fitsIndex maxIndex
  omega

theorem exists_indentation_iff :
    (∃ s, indentation o (depth : Int) = .ok s) ↔ depth * o.indentSize ≤ maxIndex := by
  rw [← fitsIndex_natCast, Int.natCast_mul]
  constructor
  · rintro ⟨s, hs⟩
    exact (indentation_eq_ok_iff.1 hs).1
  · intro h
    exact ⟨_, indentation_eq_ok_iff.2 ⟨h, rfl⟩⟩

/-- A child list with something to show needs the indentation of its lines. -/
theorem exists_childList_iff {codes : List Text} :
    (∃ body, childList o (depth : Int) codes = .ok body) ↔
      (codes.filter (· ≠ []) ≠ [] → (depth + 1) * o.indentSize ≤ maxIndex) := by
  rw [← exists_indentation_iff, Int.natCast_add, Int.natCast_one]
  constructor
  · rintro ⟨body, hbody⟩ hne
    obtain ⟨hnil, -⟩ | ⟨-, inner, _, hinner, -⟩ := childList_eq_ok_iff.1 hbody
    · exact absurd hnil hne
    · exact ⟨inner, hinner⟩
  · intro h
    by_cases hnil : codes.filter (· ≠ []) = []
    · exact ⟨_, childList_eq_ok_iff.2 (.inl ⟨hnil, rfl⟩)⟩
    · obtain ⟨inner, hinner⟩ := h hnil
      have hwide : (depth + 1) * o.indentSize ≤ maxIndex :=
        exists_indentation_iff.1 ⟨inner, by rwa [Int.natCast_add, Int.natCast_one]⟩
      have houter : depth * o.indentSize ≤ maxIndex :=
        Nat.le_trans (Nat.mul_le_mul_right o.indentSize (Nat.le_succ depth)) hwide
      obtain ⟨outer, houter⟩ := exists_indentation_iff.2 houter
      exact ⟨_, childList_eq_ok_iff.2 (.inr ⟨hnil, inner, outer, hinner, houter, rfl⟩)⟩

theorem exists_layouts_iff {level : Int} {ns : List Node} :
    (∃ codes, layouts o level ns = .ok codes) ↔ ∀ n ∈ ns, ∃ code, layout o level n = .ok code := by
  induction ns with
  | nil => simp [layouts]
  | cons n ns ih =>
    rw [List.forall_mem_cons, ← ih]
    constructor
    · rintro ⟨codes, h⟩
      obtain ⟨code, hcode, h⟩ := Outcome.exists_of_bind_ok h
      obtain ⟨more, hmore, -⟩ := Outcome.exists_of_bind_ok h
      exact ⟨⟨code, hcode⟩, more, hmore⟩
    · rintro ⟨⟨code, hcode⟩, more, hmore⟩
      exact ⟨code :: more, by rw [layouts, hcode, hmore]; rfl⟩

/-- The codes of a row show something exactly when a node of the row renders. -/
theorem filter_codes_ne_nil_iff {level : Int} {ns : List Node} {codes : List Text}
    (h : layouts o level ns = .ok codes) : codes.filter (· ≠ []) ≠ [] ↔ ns.any renders := by
  have hshown := layouts_filter_of_ok h
  cases hrow : ns.filter renders with
  | nil =>
    rw [hrow] at hshown
    rw [← Except.ok.inj hshown]
    simpa using List.filter_eq_nil_iff.1 hrow
  | cons c cs =>
    rw [hrow] at hshown
    have hc : c ∈ ns.filter renders := hrow ▸ List.mem_cons_self
    have hany : ns.any renders = true := List.any_eq_true.2 ⟨c, List.mem_filter.1 hc⟩
    exact iff_of_true (layouts_ne_nil hshown) hany

theorem filter_scriptTexts_ne_nil_iff (n : Node) :
    (scriptTexts n).filter (· ≠ []) ≠ [] ↔ n.children.any isShownText := by
  rw [scriptTexts_filter, ne_eq, List.map_eq_nil_iff, List.filter_eq_nil_iff, List.any_eq_true]
  simp

theorem exists_layout_script_iff {name : Text} {attrs : Attributes} {children : List Node}
    {text : Text} :
    (∃ code, layout o (depth : Int) ⟨.script, name, attrs, children, text⟩ = .ok code) ↔
      (children.any isShownText → (depth + 1) * o.indentSize ≤ maxIndex) := by
  rw [← filter_scriptTexts_ne_nil_iff ⟨.script, name, attrs, children, text⟩, ← exists_childList_iff]
  constructor
  · rintro ⟨code, h⟩
    obtain ⟨body, hbody, -⟩ := layout_script_eq_ok_iff.1 h
    exact ⟨body, hbody⟩
  · rintro ⟨body, hbody⟩
    exact ⟨_, layout_script_eq_ok_iff.2 ⟨body, hbody, rfl⟩⟩

theorem exists_layout_element_iff {name : Text} (hv : ¬ isVoid name) {attrs : Attributes}
    {children : List Node} {text : Text} :
    (∃ code, layout o (depth : Int) ⟨.element, name, attrs, children, text⟩ = .ok code) ↔
      (∀ c ∈ children, ∃ code, layout o ((depth + 1 : Nat) : Int) c = .ok code) ∧
        (children.any renders → (depth + 1) * o.indentSize ≤ maxIndex) := by
  rw [← exists_layouts_iff, Int.natCast_add, Int.natCast_one]
  constructor
  · rintro ⟨code, h⟩
    obtain ⟨codes, body, hcodes, hbody, -⟩ := (layout_element_eq_ok_iff hv).1 h
    rw [← filter_codes_ne_nil_iff hcodes]
    exact ⟨⟨codes, hcodes⟩, exists_childList_iff.1 ⟨body, hbody⟩⟩
  · rintro ⟨⟨codes, hcodes⟩, hwidth⟩
    rw [← filter_codes_ne_nil_iff hcodes] at hwidth
    obtain ⟨body, hbody⟩ := exists_childList_iff.2 hwidth
    exact ⟨_, (layout_element_eq_ok_iff hv).2 ⟨codes, body, hcodes, hbody, rfl⟩⟩

/-- The code of a tree is written unless the tree is too wide. -/
theorem exists_layout_iff (o : Options) (n : Node) :
    ∀ depth : Nat, (∃ code, layout o (depth : Int) n = .ok code) ↔ ¬ IsTooWide o depth n := by
  induction n using Node.induction with
  | step n ih =>
    intro depth
    rw [isTooWide_iff]
    obtain ⟨kind, name, attrs, children, text⟩ := n
    cases kind with
    | text => exact iff_of_true ⟨_, rfl⟩ (by simp [isBlock])
    | script =>
      rw [exists_layout_script_iff]
      simp [isBlock]
    | element =>
      by_cases hv : isVoid name
      · rw [layout, if_pos hv]
        exact iff_of_true ⟨_, rfl⟩ (by simp [isBlock, hv])
      · have hblock : isBlock ⟨.element, name, attrs, children, text⟩ = children.any renders := by
          simp [isBlock, hv]
        rw [exists_layout_element_iff hv, hblock]
        constructor
        · rintro ⟨hchildren, hwidth⟩ ⟨hany, hwide | ⟨-, c, hc, -, hc'⟩⟩
          · exact absurd (hwidth hany) (Nat.not_le_of_lt hwide)
          · exact (ih c hc (depth + 1)).1 (hchildren c hc) hc'
        · intro h
          refine ⟨fun c hc => ?_, fun hany => Nat.le_of_not_lt fun hwide => h ⟨hany, .inl hwide⟩⟩
          cases hr : renders c with
          | false => exact ⟨[], layout_of_not_renders hr o _⟩
          | true =>
            refine (ih c hc (depth + 1)).2 fun hc' => h ⟨?_, .inr ⟨rfl, c, hc, hr, hc'⟩⟩
            exact List.any_eq_true.2 ⟨c, hc, hr⟩
    | document => exact iff_of_true ⟨_, rfl⟩ (by simp [isBlock])
    | other => exact iff_of_true ⟨_, rfl⟩ (by simp [isBlock])
    | unknown label => exact iff_of_true ⟨_, rfl⟩ (by simp [isBlock])

/-! ### Failures -/

/-- There is one way to fail. -/
theorem eq_error_iff {α : Type} {x : Except IndentError α} :
    x = .error .outOfRange ↔ ¬ ∃ a, x = .ok a := by
  cases x with
  | ok a => simp
  | error e => cases e; simp

theorem exists_emitDocument_iff {doc : Node} :
    (∃ code, emitDocument o doc = .ok code) ↔
      ∀ c ∈ doc.children, ∃ code, emitNode o 0 c = .ok code := by
  rw [emitDocument, funext (emitNode_eq_layout o 0), ← layouts_eq_mapM, ← exists_layouts_iff]
  constructor
  · rintro ⟨code, h⟩
    obtain ⟨codes, hcodes, -⟩ := Outcome.exists_of_bind_ok h
    exact ⟨codes, hcodes⟩
  · rintro ⟨codes, hcodes⟩
    exact ⟨_, by rw [hcodes]; rfl⟩

theorem exists_emitNode_mono {o' : Options} {depth' : Nat} (hd : depth' ≤ depth)
    (hs : o'.indentSize ≤ o.indentSize) {n : Node} {code : Text}
    (h : emitNode o (depth : Int) n = .ok code) : ∃ code, emitNode o' (depth' : Int) n = .ok code := by
  rw [emitNode_eq_layout] at h
  rw [emitNode_eq_layout, exists_layout_iff]
  exact fun hwide => (exists_layout_iff o n depth).1 ⟨code, h⟩ (hwide.mono hd hs)

/-- A tree has no code exactly when it is too wide, and a document when one of its children is; what has a
code has one further out and with narrower levels. -/
theorem emit_eq_error_iff_and_mono :
    (∀ (o : Options) (depth : Nat) (n : Node),
      (emitNode o depth n = .error .outOfRange ↔ IsTooWide o depth n) ∧
        ((∃ code, emitNode o depth n = .ok code) ↔ ¬ IsTooWide o depth n)) ∧
    (∀ (o : Options) (doc : Node),
      (emitDocument o doc = .error .outOfRange ↔
        ∃ c ∈ doc.children, emitNode o 0 c = .error .outOfRange) ∧
      ((∃ code, emitDocument o doc = .ok code) ↔
        ∀ c ∈ doc.children, ∃ code, emitNode o 0 c = .ok code)) ∧
    ∀ o o' : Options, o'.indentSize ≤ o.indentSize →
      (∀ (depth depth' : Nat) (n : Node) (code : Text), depth' ≤ depth →
        emitNode o depth n = .ok code → ∃ code', emitNode o' depth' n = .ok code') ∧
      ∀ (doc : Node) (code : Text), emitDocument o doc = .ok code →
        ∃ code', emitDocument o' doc = .ok code' := by
  refine ⟨?_, ?_, ?_⟩
  · intro o depth n
    have hok : (∃ code, emitNode o depth n = .ok code) ↔ ¬ IsTooWide o depth n := by
      rw [emitNode_eq_layout, exists_layout_iff]
    exact ⟨by rw [eq_error_iff, hok, Classical.not_not], hok⟩
  · intro o doc
    refine ⟨?_, exists_emitDocument_iff⟩
    simp only [eq_error_iff, exists_emitDocument_iff, Classical.not_forall, exists_prop]
  · intro o o' hs
    refine ⟨fun depth depth' n code hd h => exists_emitNode_mono hd hs h, ?_⟩
    intro doc code h
    rw [exists_emitDocument_iff]
    intro c hc
    obtain ⟨code, hcode⟩ := exists_emitDocument_iff.1 ⟨code, h⟩ c hc
    exact exists_emitNode_mono (Nat.le_refl 0) hs hcode

def paragraph : Node := .element "p".toList [] [.ofText "a".toList]

def paragraphs : Node :=
  .element "div".toList [] [.element "br".toList [] [paragraph], paragraph]

theorem paragraph_isTooWide_iff {size depth : Nat} (hs : 0 < size) :
    IsTooWide { indentSize := size, indentSize_pos := hs } depth paragraph ↔
      maxIndex < (depth + 1) * size := by
  rw [isTooWide_iff]
  constructor
  · rintro ⟨-, hwide | ⟨-, c, hc, -, hc'⟩⟩
    · exact hwide
    · obtain rfl := List.mem_singleton.1 hc
      exact absurd (isTooWide_iff.1 hc').1 (by decide)
  · intro hwide
    exact ⟨by decide, .inl hwide⟩

theorem emit_paragraphs :
    emitNode { indentSize := 0x2000000000000000 } 2 paragraphs = .error .outOfRange ∧
      ∃ code, emitNode { indentSize := 0x2000000000000000 } 1 paragraphs = .ok code ∧
        (∃ code', emitNode { indentSize := 0x1000000000000000 } 0 paragraphs = .ok code') ∧
        ∃ page, emitDocument { indentSize := 0x2000000000000000 } paragraphs = .ok page ∧
          ∃ page', emitDocument { indentSize := 0x1000000000000000 } paragraphs = .ok page' := by
  obtain ⟨hnode, hdocument, hmono⟩ := emit_eq_error_iff_and_mono
  have hwide : IsTooWide { indentSize := 0x2000000000000000 } 2 paragraphs :=
    isTooWide_iff.2 ⟨by decide, .inr ⟨by decide, paragraph, .tail _ (.head _), by decide,
      (paragraph_isTooWide_iff _).2 (by decide)⟩⟩
  have hchild : ∀ depth ≤ 2, ∀ c ∈ paragraphs.children,
      ¬ IsTooWide { indentSize := 0x2000000000000000 } depth c := by
    intro depth hd c hc h
    rcases List.mem_cons.1 hc with rfl | hc
    · exact absurd (isTooWide_iff.1 h).1 (by decide)
    · obtain rfl := List.mem_singleton.1 hc
      rw [paragraph_isTooWide_iff, maxIndex] at h
      omega
  have hnarrow : ¬ IsTooWide { indentSize := 0x2000000000000000 } 1 paragraphs := by
    intro h
    obtain ⟨-, hwide | ⟨-, c, hc, -, hc'⟩⟩ := isTooWide_iff.1 h
    · exact absurd hwide (by decide)
    · exact hchild 2 (by decide) c hc hc'
  obtain ⟨code, hcode⟩ := (hnode _ 1 paragraphs).2.2 hnarrow
  obtain ⟨page, hpage⟩ := (hdocument { indentSize := 0x2000000000000000 } paragraphs).2.2 fun c hc =>
    (hnode _ 0 c).2.2 (hchild 0 (by decide) c hc)
  have hmono := hmono { indentSize := 0x2000000000000000 } { indentSize := 0x1000000000000000 } (by decide)
  exact ⟨(hnode _ 2 paragraphs).1.2 hwide, code, hcode, hmono.1 1 0 paragraphs code (by decide) hcode,
    page, hpage, hmono.2 paragraphs page hpage⟩

end MarkupCode.Code
