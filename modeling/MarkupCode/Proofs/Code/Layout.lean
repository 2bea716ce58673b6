import MarkupCode.Code.Layout
import MarkupCode.Outcome

/-!
# The stack and the recursion

A stack of pending items stands for the codes of its subtrees and its literal texts, one behind the
other. Working off the stack writes what it stands for, so the code of a tree is the one that the
recursion on the tree gives, failures included. A node takes a line among its siblings exactly when
its own code is not empty.
-/

namespace MarkupCode.Code

/-- The text that a stack of pending items stands for. -/
def meaning (o : Options) : List Pending → Except IndentError Text
  | [] => .ok []
  | .literal s :: rest => do return s ++ (← meaning o rest)
  | .subtree n level :: rest => do return (← layout o level n) ++ (← meaning o rest)

theorem meaning_append (o : Options) (items rest : List Pending) :
    meaning o (items ++ rest) = do return (← meaning o items) ++ (← meaning o rest) := by
  induction items with
  | nil =>
    rw [List.nil_append]
    exact (bind_pure (meaning o rest)).symm
  | cons item items ih =>
    cases item with
    | literal s => simp only [List.cons_append, meaning, ih, bind_assoc, pure_bind, List.append_assoc]
    | subtree n level =>
      simp only [List.cons_append, meaning, ih, bind_assoc, pure_bind, List.append_assoc]

theorem layouts_eq_mapM (o : Options) (level : Int) (ns : List Node) :
    layouts o level ns = ns.mapM (layout o level) := by
  induction ns with
  | nil => rfl
  | cons n ns ih => rw [layouts, List.mapM_cons, ih]

/-! ### What renders -/

theorem headCode_ne_nil (name : Text) (attrs : Attributes) : headCode name attrs ≠ [] := by
  simp [headCode]

theorem renders_element (name : Text) (attrs : Attributes) (children : List Node) :
    renders (.element name attrs children) = true := by
  rcases Node.elementKind_cases name with h | h <;> rw [renders, Node.element, h]

theorem layout_of_not_renders {n : Node} (h : renders n = false) (o : Options) (level : Int) :
    layout o level n = .ok [] := by
  obtain ⟨kind, name, attrs, children, text⟩ := n
  cases kind with
  | text =>
    have hs : Text.strip text = [] := by simpa [renders] using h
    simp [layout, textCode, hs]
  | element => simp [renders] at h
  | script => simp [renders] at h
  | document => rfl
  | other => rfl
  | unknown label => rfl

theorem layout_ne_nil_of_renders {n : Node} (h : renders n = true) {o : Options} {level : Int}
    {code : Text} (hc : layout o level n = .ok code) : code ≠ [] := by
  obtain ⟨kind, name, attrs, children, text⟩ := n
  cases kind with
  | text =>
    have hs : Text.strip text ≠ [] := by simpa [renders] using h
    have he : textCode escape text = code := Except.ok.inj hc
    rw [← he]
    intro e
    exact hs ((textCode_eq_nil_iff escape text).1 e)
  | element =>
    by_cases hv : isVoid name
    · rw [layout, if_pos hv] at hc
      rw [← Except.ok.inj hc]
      exact headCode_ne_nil name attrs
    · rw [layout, if_neg hv] at hc
      obtain ⟨codes, _, hc⟩ := Outcome.exists_of_bind_ok hc
      obtain ⟨body, _, hc⟩ := Outcome.exists_of_bind_ok hc
      rw [← Except.ok.inj hc]
      simp
  | script =>
    obtain ⟨body, _, hc⟩ := Outcome.exists_of_bind_ok hc
    rw [← Except.ok.inj hc]
    simp
  | document => simp [renders] at h
  | other => simp [renders] at h
  | unknown label => simp [renders] at h

/-- A script is written as its head and the list of its literals. -/
theorem layout_script_eq_ok_iff {o : Options} {level : Int} {name : Text} {attrs : Attributes}
    {children : List Node} {text code : Text} :
    layout o level ⟨.script, name, attrs, children, text⟩ = .ok code ↔
      ∃ body, childList o level (scriptTexts ⟨.script, name, attrs, children, text⟩) = .ok body ∧
        code = headCode "script".toList attrs ++ ' ' :: body := by
  rw [layout, scriptCode, Outcome.bind_eq_ok_iff]
  constructor
  · rintro ⟨body, hb, h⟩
    exact ⟨body, hb, (Except.ok.inj h).symm⟩
  · rintro ⟨body, hb, rfl⟩
    exact ⟨body, hb, rfl⟩

/-- An element that is not void is written as its head and the list of its children's codes. -/
theorem layout_element_eq_ok_iff {o : Options} {level : Int} {name : Text} (hv : ¬ isVoid name)
    {attrs : Attributes} {children : List Node} {text code : Text} :
    layout o level ⟨.element, name, attrs, children, text⟩ = .ok code ↔
      ∃ codes body, layouts o (level + 1) children = .ok codes ∧ childList o level codes = .ok body ∧
        code = headCode name attrs ++ ' ' :: body := by
  rw [layout, if_neg hv]
  constructor
  · intro h
    obtain ⟨codes, hc, h⟩ := Outcome.exists_of_bind_ok h
    obtain ⟨body, hb, h⟩ := Outcome.exists_of_bind_ok h
    exact ⟨codes, body, hc, hb, (Except.ok.inj h).symm⟩
  · rintro ⟨codes, body, hc, hb, rfl⟩
    rw [hc]
    change childList o level codes >>= _ = _
    rw [hb]
    rfl

/-- A node renders nothing exactly when its code is empty, at any level. -/
theorem renders_eq_false_iff (o : Options) (level : Int) (n : Node) :
    renders n = false ↔ layout o level n = .ok [] := by
  constructor
  · intro h
    exact layout_of_not_renders h o level
  · intro h
    cases hr : renders n with
    | false => rfl
    | true => exact absurd rfl (layout_ne_nil_of_renders hr h)

/-- Among the codes of a row of nodes, those that are not empty are those of the nodes that render. -/
theorem layouts_filter_renders (o : Options) (level : Int) (ns : List Node) :
    (layouts o level ns).map (·.filter (· ≠ [])) = layouts o level (ns.filter renders) := by
  induction ns with
  | nil => rfl
  | cons n ns ih =>
    cases hr : renders n with
    | false =>
      rw [List.filter_cons_of_neg (by simp [hr]), ← ih, layouts, layout_of_not_renders hr]
      cases layouts o level ns <;> simp [bind, Except.bind, pure, Except.pure, Except.map]
    | true =>
      rw [List.filter_cons_of_pos hr, layouts, layouts, ← ih]
      cases hc : layout o level n with
      | error e => rfl
      | ok code =>
        have := layout_ne_nil_of_renders hr hc
        cases layouts o level ns <;>
          simp [this, bind, Except.bind, pure, Except.pure, Except.map]

theorem layouts_filter_of_ok {o : Options} {level : Int} {ns : List Node} {codes : List Text}
    (h : layouts o level ns = .ok codes) :
    layouts o level (ns.filter renders) = .ok (codes.filter (· ≠ [])) := by
  rw [← layouts_filter_renders, h]
  rfl

theorem layouts_filter_eq_self {o : Options} {level : Int} {ns : List Node} {codes : List Text}
    (h : layouts o level (ns.filter renders) = .ok codes) : codes.filter (· ≠ []) = codes := by
  have := layouts_filter_renders o level (ns.filter renders)
  rw [List.filter_filter, h] at this
  simpa [h, Except.map] using this

/-! ### Lines of a child list -/

theorem indentation_eq_ok_iff {o : Options} {level : Int} {s : Text} :
    indentation o level = .ok s ↔
      fitsIndex (level * o.indentSize) ∧ s = List.replicate (level * o.indentSize).toNat ' ' := by
  unfold indentation
  dsimp only
  split
  · next h => exact ⟨fun e => ⟨h, (Except.ok.inj e).symm⟩, fun e => congrArg Except.ok e.2.symm⟩
  · next h => exact ⟨(nomatch ·), fun e => absurd e.1 h⟩

theorem eq_space_of_mem_indentation {o : Options} {level : Int} {s : Text}
    (h : indentation o level = .ok s) : ∀ c ∈ s, c = ' ' := by
  rw [(indentation_eq_ok_iff.1 h).2]
  intro c hc
  exact (List.mem_replicate.1 hc).2

def lines (inner : Text) (codes : List Text) : Text := codes.flatMap fun c => '\n' :: (inner ++ c)

@[simp] theorem lines_nil (inner : Text) : lines inner [] = [] := rfl

@[simp] theorem lines_cons (inner code : Text) (codes : List Text) :
    lines inner (code :: codes) = '\n' :: (inner ++ code) ++ lines inner codes := rfl

theorem newline_intercalate_map (inner code : Text) (codes : List Text) :
    '\n' :: ['\n'].intercalate ((code :: codes).map (inner ++ ·)) = lines inner (code :: codes) := by
  induction codes generalizing code with
  | nil => simp
  | cons next codes ih =>
    rw [List.map_cons, List.map_cons, List.intercalate_cons_cons, ← List.map_cons, List.append_assoc,
      List.singleton_append, ih, lines_cons _ code, List.cons_append]

theorem intercalate_eq_nil_iff {codes : List Text} (hf : codes.filter (· ≠ []) = codes) :
    ['\n'].intercalate codes = [] ↔ codes = [] := by
  constructor
  · intro h
    match codes with
    | [] => rfl
    | [code] => rw [List.intercalate_singleton] at h; simp [h] at hf
    | code :: next :: codes => simp at h
  · rintro rfl
    rfl

theorem filter_filter_ne_nil (codes : List Text) :
    (codes.filter (· ≠ [])).filter (· ≠ []) = codes.filter (· ≠ []) := by
  rw [List.filter_filter]
  simp only [Bool.and_self]

theorem childList_filter (o : Options) (level : Int) (codes : List Text) :
    childList o level (codes.filter (· ≠ [])) = childList o level codes := by
  unfold childList
  rw [filter_filter_ne_nil]

/-- A child list takes from a row of nodes only those that render. -/
theorem bind_childList_filter (o : Options) (level inside : Int) (ns : List Node) :
    layouts o inside (ns.filter renders) >>= childList o level =
      layouts o inside ns >>= childList o level := by
  rw [← layouts_filter_renders]
  cases layouts o inside ns with
  | error e => rfl
  | ok codes => exact childList_filter o level codes

/-- A child list with something to show: the indentations, then every code on a line. -/
theorem childList_of_ne_nil {codes : List Text} (hne : codes ≠ [])
    (hf : codes.filter (· ≠ []) = codes) (o : Options) (level : Int) :
    childList o level codes = do
      let inner ← indentation o (level + 1)
      let outer ← indentation o level
      return '[' :: (lines inner codes ++ '\n' :: (outer ++ [']'])) := by
  obtain ⟨code, codes, rfl⟩ := List.exists_cons_of_ne_nil hne
  unfold childList
  rw [hf]
  apply bind_congr
  intro inner
  apply bind_congr
  intro outer
  apply congrArg Except.ok
  rw [← newline_intercalate_map, List.append_assoc]
  rfl

def bracketed (inner outer : Text) (codes : List Text) : Text :=
  '[' :: (lines inner codes ++ '\n' :: (outer ++ [']']))

/-- All that a child list can be: empty brackets when there is nothing to show, and otherwise the codes that
are not empty, in brackets, provided that both indentations can be written. -/
theorem childList_eq_ok_iff {o : Options} {level : Int} {codes : List Text} {body : Text} :
    childList o level codes = .ok body ↔
      codes.filter (· ≠ []) = [] ∧ body = "[]".toList ∨
      codes.filter (· ≠ []) ≠ [] ∧ ∃ inner outer, indentation o (level + 1) = .ok inner ∧
        indentation o level = .ok outer ∧ body = bracketed inner outer (codes.filter (· ≠ [])) := by
  rw [← childList_filter]
  by_cases hne : codes.filter (· ≠ []) = []
  · rw [hne]
    constructor
    · intro h
      exact .inl ⟨rfl, (Except.ok.inj h).symm⟩
    · rintro (⟨-, rfl⟩ | ⟨h, -⟩)
      · rfl
      · exact absurd rfl h
  · rw [childList_of_ne_nil hne (filter_filter_ne_nil codes)]
    constructor
    · intro h
      obtain ⟨inner, hi, h⟩ := Outcome.exists_of_bind_ok h
      obtain ⟨outer, ho, h⟩ := Outcome.exists_of_bind_ok h
      exact .inr ⟨hne, inner, outer, hi, ho, (Except.ok.inj h).symm⟩
    · rintro (⟨h, -⟩ | ⟨-, inner, outer, hi, ho, rfl⟩)
      · exact absurd h hne
      · rw [hi, ho]
        rfl

theorem meaning_childItems (o : Options) (inner outer : Text) (level : Int) (shown : List Node) :
    meaning o (childItems inner outer level shown) = do
      let codes ← layouts o (level + 1) shown
      return lines inner codes ++ '\n' :: (outer ++ [']']) := by
  induction shown with
  | nil =>
    simp only [childItems, meaning, layouts, List.flatMap_nil, List.nil_append]
    exact congrArg Except.ok (List.append_nil _)
  | cons c cs ih =>
    rw [childItems_cons, layouts]
    simp only [meaning, ih, bind_assoc, pure_bind, lines_cons, List.append_assoc, List.cons_append]

/-! ### The walk -/

theorem layouts_ne_nil {o : Options} {level : Int} {n : Node} {ns : List Node} {codes : List Text}
    (h : layouts o level (n :: ns) = .ok codes) : codes ≠ [] := by
  obtain ⟨code, _, h⟩ := Outcome.exists_of_bind_ok h
  obtain ⟨more, _, h⟩ := Outcome.exists_of_bind_ok h
  rw [← Except.ok.inj h]
  simp

/-- The child list of a row of nodes, written by the walk. The recursion meets a failure of an
indentation behind the failures of the children and the walk before them; there is only one way to
fail. -/
theorem childList_layouts (o : Options) (level : Int) {children shown : List Node}
    (hs : children.filter renders = shown) (hne : shown ≠ []) :
    (do childList o level (← layouts o (level + 1) children)) = do
      let inner ← indentation o (level + 1)
      let outer ← indentation o level
      return '[' :: (← meaning o (childItems inner outer level shown)) := by
  obtain ⟨c, cs, rfl⟩ := List.exists_cons_of_ne_nil hne
  have hrow := layouts_filter_renders o (level + 1) children
  rw [hs] at hrow
  simp only [meaning_childItems]
  cases hc : layouts o (level + 1) children with
  | error e =>
    rw [hc] at hrow
    rw [← hrow]
    cases e
    cases indentation o (level + 1) with
    | error e => cases e; rfl
    | ok inner =>
      cases indentation o level with
      | error e => cases e; rfl
      | ok outer => rfl
  | ok codes =>
    rw [hc] at hrow
    have hcodes := layouts_ne_nil hrow.symm
    rw [← hrow]
    change childList o level codes = _
    rw [← childList_filter, childList_of_ne_nil hcodes (layouts_filter_eq_self (hs ▸ hrow.symm))]
    rfl

/-- Opening a node keeps what it stands for. -/
theorem layout_eq_openNode (o : Options) (level : Int) (n : Node) :
    layout o level n = do
      let opened ← openNode o level n
      return opened.1 ++ (← meaning o opened.2) := by
  obtain ⟨kind, name, attrs, children, text⟩ := n
  cases kind with
  | text => exact congrArg Except.ok (List.append_nil _).symm
  | script =>
    rw [layout, openNode]
    cases scriptCode o level ⟨.script, name, attrs, children, text⟩ with
    | error e => rfl
    | ok code => exact congrArg Except.ok (List.append_nil _).symm
  | element =>
    by_cases hv : isVoid name
    · rw [layout, openNode, if_pos hv, if_pos hv]
      exact congrArg Except.ok (List.append_nil _).symm
    · rw [layout, openNode, if_neg hv, if_neg hv, ← bind_assoc]
      cases hs : children.filter renders with
      | nil =>
        have hrow := layouts_filter_renders o (level + 1) children
        obtain ⟨codes, hc, hcodes⟩ := Outcome.exists_of_map_ok (hrow.trans (by rw [hs]; rfl))
        have hempty : childList o level codes = .ok "[]".toList := by
          rw [← childList_filter, hcodes]
          rfl
        rw [hc]
        change (do let body ← childList o level codes; _) = _
        rw [hempty]
        exact congrArg Except.ok (List.append_nil _).symm
      | cons c cs =>
        rw [childList_layouts o level hs (by simp)]
        simp only [bind_assoc, pure_bind]
        apply bind_congr
        intro inner
        apply bind_congr
        intro outer
        change meaning o _ >>= _ = meaning o _ >>= _
        apply bind_congr
        intro body
        exact congrArg Except.ok (List.append_assoc (headCode name attrs) [' ', '['] body).symm
  | document => rfl
  | other => rfl
  | unknown label => rfl

theorem run_eq_meaning (o : Options) (written : List Text) (items : List Pending) :
    run o written items = do return written.reverse.flatten ++ (← meaning o items) := by
  fun_induction run o written items with
  | case1 written => exact congrArg Except.ok (List.append_nil _).symm
  | case2 written s rest ih => simp [ih, meaning]
  | case3 written n level rest e h =>
    rw [meaning, layout_eq_openNode, h]
    rfl
  | case4 written n level rest code items h ih =>
    rw [ih, meaning, layout_eq_openNode, h, meaning_append]
    simp only [List.reverse_cons, List.flatten_append, List.flatten_cons, List.flatten_nil,
      List.append_nil, bind_assoc, pure_bind, List.append_assoc]
    rfl

/-- The walk writes the code that the recursion gives. -/
theorem emitNode_eq_layout (o : Options) (level : Int) (n : Node) :
    emitNode o level n = layout o level n := by
  unfold emitNode
  rw [run_eq_meaning, meaning, meaning]
  cases layout o level n with
  | error e => rfl
  | ok code => exact congrArg Except.ok (List.append_nil code)

/-- The code of a document has the codes of the children that render, one below the other. -/
theorem emitDocument_eq_map (o : Options) (doc : Node) :
    emitDocument o doc = (layouts o 0 (doc.children.filter renders)).map ['\n'].intercalate := by
  unfold emitDocument
  rw [funext (emitNode_eq_layout o 0), ← layouts_eq_mapM, ← layouts_filter_renders]
  cases layouts o 0 doc.children <;> rfl

/-- The walk writes the code that the recursion gives, or fails as it fails, and it gives a node a line
exactly when the node's own code is not empty. -/
theorem emitNode_eq_layout_and_renders_iff (o : Options) (level : Int) (n : Node) :
    emitNode o level n = layout o level n ∧
      (renders n = true ↔ emitNode o level n ≠ .ok []) := by
  refine ⟨emitNode_eq_layout o level n, ?_⟩
  rw [emitNode_eq_layout, ne_eq, ← renders_eq_false_iff, Bool.not_eq_false]

end MarkupCode.Code
