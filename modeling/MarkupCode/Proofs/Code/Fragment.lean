import MarkupCode.Proofs.Code.Layout

/-!
# Code in fragments

`fragments` writes a node as `layout` does and keeps what a text node writes apart from the code around
it; put together, the fragments are the code. A tree is `Kept` when it has nothing where writing passes
over children. The text nodes among the fragments of such a tree are all its text nodes that are not
blank, in document order.
-/

namespace MarkupCode.Code

/-- A part of the code of a tree: what a text node writes, in an element or in a script, or the code
around it. -/
inductive Fragment
  | text (n : Node)
  | verbatim (n : Node)
  | frame (code : Text)

def Fragment.code : Fragment → Text
  | text n => textCode escape n.text
  | verbatim n => textCode calm n.text
  | frame code => code

def Fragment.shown? : Fragment → Option Node
  | text n => some n
  | verbatim n => some n
  | frame _ => none

def codeOf (fs : List Fragment) : Text := fs.flatMap Fragment.code

def shownTexts (n : Node) : List Node := ((n.preorder 0).map Prod.snd).filter isShownText

def fragmentList (o : Options) (level : Int) : List (List Fragment) → Except IndentError (List Fragment)
  | [] => .ok [.frame "[]".toList]
  | row :: rows => do
    let inner ← indentation o (level + 1)
    let outer ← indentation o level
    .ok (.frame ['['] :: (row :: rows).flatMap (.frame ('\n' :: inner) :: ·) ++
      [.frame ('\n' :: outer ++ [']'])])

def scriptRows (children : List Node) : List (List Fragment) :=
  (children.filter isShownText).map fun c => [.verbatim c]

mutual
def fragments (o : Options) (level : Int) : Node → Except IndentError (List Fragment)
  | ⟨kind, name, attrs, children, text⟩ =>
    match kind with
    | .text => .ok [.text ⟨kind, name, attrs, children, text⟩]
    | .script => do
      let body ← fragmentList o level (scriptRows children)
      .ok (.frame (headCode "script".toList attrs ++ [' ']) :: body)
    | .element =>
      if isVoid name then .ok [.frame (headCode name attrs)]
      else do
        let body ← fragmentList o level (← fragmentRows o (level + 1) children)
        .ok (.frame (headCode name attrs ++ [' ']) :: body)
    | _ => .ok []

def fragmentRows (o : Options) (level : Int) : List Node → Except IndentError (List (List Fragment))
  | [] => .ok []
  | c :: cs =>
    if renders c then do return (← fragments o level c) :: (← fragmentRows o level cs)
    else fragmentRows o level cs
end

def documentFragments (o : Options) (doc : Node) : Except IndentError (List Fragment) := do
  let rows ← fragmentRows o 0 doc.children
  .ok ([.frame ['\n']].intercalate rows)

/-! ### The code of fragments -/

@[simp] theorem codeOf_nil : codeOf [] = [] := rfl

@[simp] theorem codeOf_cons (f : Fragment) (fs : List Fragment) :
    codeOf (f :: fs) = f.code ++ codeOf fs := rfl

@[simp] theorem codeOf_append (fs gs : List Fragment) : codeOf (fs ++ gs) = codeOf fs ++ codeOf gs :=
  List.flatMap_append

theorem codeOf_lines (inner : Text) (rows : List (List Fragment)) :
    codeOf (rows.flatMap (.frame ('\n' :: inner) :: ·)) = lines inner (rows.map codeOf) := by
  induction rows with
  | nil => rfl
  | cons row rows ih => simp [ih, Fragment.code]

theorem codeOf_intercalate (rows : List (List Fragment)) :
    codeOf ([Fragment.frame ['\n']].intercalate rows) = ['\n'].intercalate (rows.map codeOf) := by
  match rows with
  | [] => rfl
  | [row] => simp
  | row :: next :: rows =>
    have ih := codeOf_intercalate (next :: rows)
    rw [List.intercalate_cons_cons, codeOf_append, codeOf_append, ih]
    exact List.intercalate_cons_cons.symm

/-- A list of fragments is written as the child list of codes whose non-empty ones it stands for. -/
theorem map_fragmentList {rows : List (List Fragment)} {codes : List Text}
    (h : rows.map codeOf = codes.filter (· ≠ [])) (o : Options) (level : Int) :
    (fragmentList o level rows).map codeOf = childList o level codes := by
  have hf : (rows.map codeOf).filter (· ≠ []) = rows.map codeOf := by
    rw [h, List.filter_filter]
    simp only [Bool.and_self]
  rw [← childList_filter, ← h]
  cases rows with
  | nil => rfl
  | cons row rows =>
    rw [childList_of_ne_nil (by simp) hf, fragmentList]
    cases indentation o (level + 1) with
    | error e => rfl
    | ok inner =>
      cases indentation o level with
      | error e => rfl
      | ok outer =>
        refine congrArg Except.ok ?_
        simp only [codeOf_cons, codeOf_append, codeOf_lines, Fragment.code, codeOf_nil,
          List.append_nil, List.cons_append, List.nil_append]

theorem isShownText_iff (n : Node) :
    isShownText n = (decide (textCode calm n.text ≠ []) && decide (n.kind = .text)) := by
  rw [isShownText, Bool.and_comm]
  refine congrArg (· && _) (decide_eq_decide.2 ?_)
  exact not_congr (textCode_eq_nil_iff calm n.text).symm

/-- The literals of a script are those of the texts that show. -/
theorem scriptTexts_filter (n : Node) :
    (scriptTexts n).filter (· ≠ []) =
      (n.children.filter isShownText).map fun c => textCode calm c.text := by
  have hp : ∀ c ∈ n.children, isShownText c = _ := fun c _ => isShownText_iff c
  rw [scriptTexts, List.filter_map, List.filter_filter, List.filter_congr hp]
  rfl

theorem map_scriptRows (n : Node) :
    (scriptRows n.children).map codeOf = (scriptTexts n).filter (· ≠ []) := by
  rw [scriptTexts_filter, scriptRows, List.map_map]
  apply List.map_congr_left
  intro c _
  exact List.append_nil _

theorem map_fragmentRows {o : Options} {level : Int} {ns : List Node}
    (h : ∀ n ∈ ns, (fragments o level n).map codeOf = layout o level n) :
    (fragmentRows o level ns).map (·.map codeOf) = layouts o level (ns.filter renders) := by
  induction ns with
  | nil => rfl
  | cons n ns ih =>
    obtain ⟨hn, hns⟩ := List.forall_mem_cons.1 h
    have ih := ih hns
    by_cases hr : renders n = true
    · rw [fragmentRows, if_pos hr, List.filter_cons_of_pos hr, layouts, ← hn, ← ih]
      cases fragments o level n with
      | error e => rfl
      | ok fs => cases fragmentRows o level ns <;> rfl
    · rw [fragmentRows, if_neg hr, List.filter_cons_of_neg hr, ih]

/-- Put together, the fragments of a node are its code, and they fail as it fails. -/
theorem map_fragments (o : Options) (n : Node) :
    ∀ level, (fragments o level n).map codeOf = layout o level n := by
  induction n using Node.induction with
  | step n ih =>
    intro level
    obtain ⟨kind, name, attrs, children, text⟩ := n
    cases kind with
    | text => simp [fragments, layout, Except.map, Fragment.code]
    | script =>
      have hbody := map_fragmentList (map_scriptRows ⟨.script, name, attrs, children, text⟩) o level
      rw [layout, scriptCode, ← hbody, fragments]
      cases fragmentList o level (scriptRows children) with
      | error e => rfl
      | ok body => simp [Except.map, bind, Except.bind, Fragment.code]
    | element =>
      by_cases hv : isVoid name
      · rw [fragments, layout, if_pos hv, if_pos hv]
        simp [Except.map, Fragment.code]
      · have hrows := map_fragmentRows fun c hc => ih c hc (level + 1)
        rw [← layouts_filter_renders] at hrows
        rw [fragments, layout, if_neg hv, if_neg hv]
        apply Outcome.map_bind_congr hrows
        intro rows codes hmap
        rw [← map_fragmentList hmap]
        cases fragmentList o level rows with
        | error e => rfl
        | ok body => simp [Except.map, bind, Except.bind, Fragment.code]
    | document => rfl
    | other => rfl
    | unknown label => rfl

theorem map_documentFragments (o : Options) (doc : Node) :
    (documentFragments o doc).map codeOf = emitDocument o doc := by
  have hrows := map_fragmentRows (o := o) fun n (_ : n ∈ doc.children) => map_fragments o n 0
  rw [emitDocument_eq_map, ← hrows, documentFragments]
  cases fragmentRows o 0 doc.children with
  | error e => rfl
  | ok rows => exact congrArg Except.ok (codeOf_intercalate rows)

/-! ### The texts of fragments -/

/-- A tree with nothing where writing passes over children: void elements are empty, scripts hold texts
only, and nodes without an element's name are leaves. -/
inductive Kept : Node → Prop
  | text (s : Text) : Kept (.ofText s)
  | inert (s : Text) : Kept (.inert s)
  | element {name : Text} {children : List Node} (attrs : Attributes) :
    (isVoid name = true → children = []) →
    (Node.elementKind name = .script → ∀ c ∈ children, ∃ s, c = .ofText s) →
    (∀ c ∈ children, Kept c) → Kept (.element name attrs children)

def shownOf (fs : List Fragment) : List Node := fs.filterMap Fragment.shown?

@[simp] theorem shownOf_append (fs gs : List Fragment) :
    shownOf (fs ++ gs) = shownOf fs ++ shownOf gs :=
  List.filterMap_append

@[simp] theorem shownOf_frame (code : Text) (fs : List Fragment) :
    shownOf (.frame code :: fs) = shownOf fs := rfl

theorem shownOf_lines (inner : Text) (rows : List (List Fragment)) :
    shownOf (rows.flatMap (.frame ('\n' :: inner) :: ·)) = rows.flatMap shownOf := by
  induction rows with
  | nil => rfl
  | cons row rows ih =>
    rw [List.flatMap_cons, List.flatMap_cons, List.cons_append, shownOf_frame, shownOf_append, ih]

theorem shownOf_intercalate (code : Text) (rows : List (List Fragment)) :
    shownOf ([Fragment.frame code].intercalate rows) = rows.flatMap shownOf := by
  match rows with
  | [] => rfl
  | [row] => simp
  | row :: next :: rows =>
    have ih := shownOf_intercalate code (next :: rows)
    rw [List.intercalate_cons_cons, shownOf_append, shownOf_append, shownOf_frame, ih,
      List.flatMap_cons, List.append_assoc]
    rfl

theorem shownOf_fragmentList {o : Options} {level : Int} {rows : List (List Fragment)}
    {fs : List Fragment} (h : fragmentList o level rows = .ok fs) :
    shownOf fs = rows.flatMap shownOf := by
  cases rows with
  | nil => cases h; rfl
  | cons row rows =>
    obtain ⟨inner, -, h⟩ := Outcome.exists_of_bind_ok h
    obtain ⟨outer, -, h⟩ := Outcome.exists_of_bind_ok h
    cases h
    rw [List.cons_append, shownOf_frame, shownOf_append, shownOf_lines]
    exact List.append_nil _

theorem shownOf_scriptRows (children : List Node) :
    (scriptRows children).flatMap shownOf = children.filter isShownText := by
  unfold scriptRows
  induction children.filter isShownText with
  | nil => rfl
  | cons c cs ih => exact congrArg (c :: ·) ih

/-- The nodes of a row of trees in document order do not depend on the depth they are listed at. -/
theorem map_preorderAll (ns : List Node)
    (h : ∀ n ∈ ns, ∀ d, (n.preorder d).map Prod.snd = (n.preorder 0).map Prod.snd) (d : Nat) :
    (Node.preorderAll d ns).map Prod.snd = ns.flatMap fun n => (n.preorder 0).map Prod.snd := by
  induction ns with
  | nil => rfl
  | cons n ns ih =>
    obtain ⟨hn, hns⟩ := List.forall_mem_cons.1 h
    rw [Node.preorderAll, List.map_append, hn, ih hns, List.flatMap_cons]

theorem map_preorder (n : Node) : ∀ d, (n.preorder d).map Prod.snd = (n.preorder 0).map Prod.snd := by
  induction n using Node.induction with
  | step n ih =>
    intro d
    obtain ⟨kind, name, attrs, children, text⟩ := n
    simp only [Node.preorder, List.map_cons, map_preorderAll children ih]

theorem shownTexts_eq (n : Node) :
    shownTexts n = (if isShownText n then [n] else []) ++ n.children.flatMap shownTexts := by
  obtain ⟨kind, name, attrs, children, text⟩ := n
  unfold shownTexts
  rw [Node.preorder, List.map_cons, map_preorderAll children fun n _ => map_preorder n,
    List.filter_cons, List.filter_flatMap]
  split <;> rfl

theorem shownTexts_element (name : Text) (attrs : Attributes) (children : List Node) :
    shownTexts (.element name attrs children) = children.flatMap shownTexts := by
  rw [shownTexts_eq, if_neg]
  · rfl
  · rcases Node.elementKind_cases name with h | h <;> simp [isShownText, Node.element, h]

theorem renders_ofText (s : Text) : renders (.ofText s) = isShownText (.ofText s) :=
  (Bool.true_and _).symm

theorem shownTexts_ofText (s : Text) :
    shownTexts (.ofText s) = [Node.ofText s].filter isShownText := by
  rw [shownTexts_eq, List.filter_cons]
  exact List.append_nil _

theorem flatMap_shownTexts_of_texts {ns : List Node} (h : ∀ n ∈ ns, ∃ s, n = .ofText s) :
    ns.flatMap shownTexts = ns.filter isShownText := by
  induction ns with
  | nil => rfl
  | cons n ns ih =>
    obtain ⟨⟨s, rfl⟩, hns⟩ := List.forall_mem_cons.1 h
    rw [List.flatMap_cons, shownTexts_ofText, ih hns, ← List.filter_append]
    rfl

/-- The texts of a row of fragments are those of the nodes, when this holds of every node. -/
theorem shownOf_fragmentRows {o : Options} {level : Int} {ns : List Node}
    (h : ∀ n ∈ ns, ∀ fs, fragments o level n = .ok fs → renders n = true → shownOf fs = shownTexts n)
    (hno : ∀ n ∈ ns, renders n = false → shownTexts n = [])
    {rows : List (List Fragment)} (hr : fragmentRows o level ns = .ok rows) :
    rows.flatMap shownOf = ns.flatMap shownTexts := by
  induction ns generalizing rows with
  | nil => cases hr; rfl
  | cons n ns ih =>
    obtain ⟨hn, hns⟩ := List.forall_mem_cons.1 h
    obtain ⟨hnon, hnons⟩ := List.forall_mem_cons.1 hno
    by_cases hrender : renders n = true
    · rw [fragmentRows, if_pos hrender] at hr
      obtain ⟨fs, hfs, hr⟩ := Outcome.exists_of_bind_ok hr
      obtain ⟨more, hmore, hr⟩ := Outcome.exists_of_bind_ok hr
      cases hr
      rw [List.flatMap_cons, List.flatMap_cons, hn fs hfs hrender, ih hns hnons hmore]
    · rw [fragmentRows, if_neg hrender] at hr
      rw [List.flatMap_cons, hnon (Bool.not_eq_true _ ▸ hrender), ih hns hnons hr, List.nil_append]

/-- A kept node that renders nothing shows no text. -/
theorem Kept.shownTexts_eq_nil {n : Node} (h : Kept n) (hr : renders n = false) :
    shownTexts n = [] := by
  cases h with
  | text s =>
    rw [renders_ofText] at hr
    rw [shownTexts_ofText, List.filter_cons_of_neg (by simp [hr])]
    rfl
  | inert s => rfl
  | @element name children attrs =>
    rw [renders_element] at hr
    cases hr

/-- The fragments of a kept node that renders show all its texts, in document order. -/
theorem Kept.shownOf_fragments {n : Node} (h : Kept n) (o : Options) :
    ∀ level fs, fragments o level n = .ok fs → renders n = true → shownOf fs = shownTexts n := by
  induction h with
  | text s =>
    intro level fs hfs hr
    cases hfs
    rw [renders_ofText] at hr
    rw [shownTexts_ofText, List.filter_cons_of_pos hr]
    rfl
  | inert s =>
    intro level fs hfs hr
    cases hr
  | @element name children attrs hvoid hscript hkept ih =>
    intro level fs hfs hr
    rw [shownTexts_element]
    rw [Node.element] at hfs
    rcases Node.elementKind_cases name with hk | hk
    · rw [hk, fragments] at hfs
      obtain ⟨body, hbody, hfs⟩ := Outcome.exists_of_bind_ok hfs
      cases hfs
      rw [shownOf_frame, shownOf_fragmentList hbody, shownOf_scriptRows,
        flatMap_shownTexts_of_texts (hscript hk)]
    · rw [hk, fragments] at hfs
      by_cases hv : isVoid name = true
      · rw [if_pos hv] at hfs
        cases hfs
        rw [hvoid hv]
        rfl
      · rw [if_neg hv] at hfs
        obtain ⟨rows, hrows, hfs⟩ := Outcome.exists_of_bind_ok hfs
        obtain ⟨body, hbody, hfs⟩ := Outcome.exists_of_bind_ok hfs
        cases hfs
        rw [shownOf_frame, shownOf_fragmentList hbody]
        apply shownOf_fragmentRows ?_ ?_ hrows
        · intro c hc fs
          exact ih c hc (level + 1) fs
        · intro c hc
          exact (hkept c hc).shownTexts_eq_nil

/-- The fragments of a document of kept trees show all its texts, in document order. -/
theorem shownOf_documentFragments {o : Options} {trees : List Node} (h : ∀ t ∈ trees, Kept t)
    {fs : List Fragment} (hfs : documentFragments o (.document trees) = .ok fs) :
    shownOf fs = shownTexts (.document trees) := by
  obtain ⟨rows, hrows, hfs⟩ := Outcome.exists_of_bind_ok hfs
  cases hfs
  rw [shownOf_intercalate, shownTexts_eq, if_neg (by simp [isShownText, Node.document])]
  apply shownOf_fragmentRows ?_ ?_ hrows
  · intro t ht
    exact (h t ht).shownOf_fragments o 0
  · intro t ht
    exact (h t ht).shownTexts_eq_nil

end MarkupCode.Code
