import MarkupCode.Proofs.Code.Layout
import MarkupCode.Proofs.Code.Literal
import MarkupCode.Proofs.Text.Blank
import MarkupCode.Proofs.Text.Line
import MarkupCode.Proofs.Text.Upper

/-!
# Codes in other places

`isUnbroken` tells the trees that bring no line feed into their code: none stands in the name of an
element or of an attribute or in a text of a script. The code of such a tree some levels deeper is its
code with the spaces of these levels behind every line feed. So an element's code is its head and the
code of its children as a document, indented as a whole.
-/

namespace MarkupCode.Code

mutual
def isUnbroken : Node → Bool
  | ⟨kind, name, attrs, children, _⟩ =>
    match kind with
    | .element =>
      '\n' ∉ name && attrs.all ('\n' ∉ ·.1) && (isVoid name || areUnbroken children)
    | .script => attrs.all ('\n' ∉ ·.1) && children.all fun c => c.kind ≠ .text || '\n' ∉ c.text
    | _ => true

def areUnbroken : List Node → Bool
  | [] => true
  | c :: cs => isUnbroken c && areUnbroken cs
end

theorem areUnbroken_iff (ns : List Node) : areUnbroken ns = true ↔ ∀ n ∈ ns, isUnbroken n = true := by
  induction ns with
  | nil => simp [areUnbroken]
  | cons n ns ih => rw [areUnbroken, Bool.and_eq_true, ih, List.forall_mem_cons]

/-! ### Line feeds in a code -/

theorem newline_notMem_joinHyphens {name : Text} (h : '\n' ∉ name) (afterHyphen : Bool) :
    '\n' ∉ joinHyphens afterHyphen name := by
  induction name generalizing afterHyphen with
  | nil => exact List.not_mem_nil
  | cons c name ih =>
    have hc : c ≠ '\n' := fun e => h (by simp [e])
    have ih := ih fun m => h (List.mem_cons_of_mem c m)
    have hupper : '\n' ∉ Text.upper c := Text.notMem_upper (by decide) hc
    unfold joinHyphens
    split
    · exact ih true
    split
    · simp [hupper, ih false]
    · simp [Ne.symm hc, ih false]

theorem newline_notMem_attributeCode {name : Text} (h : '\n' ∉ name) (value : Text) :
    '\n' ∉ attributeCode name value := by
  have hidentifier : '\n' ∉ identifier name := by
    rw [identifier, camelCase_eq_joinHyphens]
    simp [newline_notMem_joinHyphens h]
  unfold attributeCode
  split
  · exact hidentifier
  · simp [hidentifier, break_notMem_escape]

theorem newline_notMem_headCode {name : Text} (hn : '\n' ∉ name) {attrs : Attributes}
    (ha : attrs.all ('\n' ∉ ·.1) = true) : '\n' ∉ headCode name attrs := by
  have hcodes : '\n' ∉ "; ".toList.intercalate (attributeCodes attrs) := by
    apply Text.notMem_intercalate (by decide)
    intro code hcode
    obtain ⟨a, hmem, rfl⟩ := List.mem_map.1 hcode
    exact newline_notMem_attributeCode (of_decide_eq_true (List.all_eq_true.1 ha a hmem)) a.2
  have hlist : '\n' ∉ attributeList (attributeCodes attrs) := by
    unfold attributeList
    split
    · decide
    · rw [List.mem_append, List.mem_append]
      exact not_or.2 ⟨not_or.2 ⟨by decide, hcodes⟩, by decide⟩
  simp [headCode, hn, hlist]

theorem newline_notMem_textCode {escaping : Text → Text} {s : Text}
    (h : '\n' ∉ escaping (Text.strip s)) : '\n' ∉ textCode escaping s := by
  unfold textCode
  split
  · exact List.not_mem_nil
  · simp [h]

/-! ### Deeper levels -/

/-- The spaces of a deeper level are those of the added levels and those of the level itself. -/
theorem indentation_add {o : Options} {level k : Nat} {deeper : Text}
    (h : indentation o ((level + k : Nat) : Int) = .ok deeper) :
    ∃ s, indentation o level = .ok s ∧ deeper = List.replicate (k * o.indentSize) ' ' ++ s := by
  obtain ⟨hfits, hdeeper⟩ := indentation_eq_ok_iff.1 h
  have hwidth : ((level + k : Nat) : Int) * o.indentSize =
      ((k * o.indentSize + level * o.indentSize : Nat) : Int) := by
    rw [← Int.natCast_mul, Nat.add_mul, Nat.add_comm]
  rw [hwidth] at hfits hdeeper
  refine ⟨List.replicate (level * o.indentSize) ' ', indentation_eq_ok_iff.2 ⟨?_, ?_⟩, ?_⟩
  · unfold fitsIndex at hfits ⊢
    omega
  · rfl
  · rw [hdeeper, Int.toNat_natCast, List.replicate_append_replicate]

theorem hang_lines {inner : Text} (h : '\n' ∉ inner) (width : Nat) (codes : List Text) :
    Text.hang width (lines inner codes) =
      lines (List.replicate width ' ' ++ inner) (codes.map (Text.hang width)) := by
  induction codes with
  | nil => rfl
  | cons code codes ih =>
    simp only [lines_cons, List.map_cons, Text.hang_append, Text.hang_newline_cons, ih,
      Text.hang_of_notMem h, List.append_assoc]

theorem filter_map_hang (width : Nat) (codes : List Text) :
    (codes.map (Text.hang width)).filter (· ≠ []) = (codes.filter (· ≠ [])).map (Text.hang width) := by
  rw [List.filter_map]
  refine congrArg _ (List.filter_congr ?_)
  intro code _
  simp [Text.hang_eq_nil_iff]

/-- A child list deeper, of codes that are moved behind their line feeds, is the list moved likewise. -/
theorem childList_hang {o : Options} {level k : Nat} {codes : List Text} {deeper : Text}
    (h : childList o ((level + k : Nat) : Int) (codes.map (Text.hang (k * o.indentSize))) = .ok deeper) :
    ∃ body, childList o level codes = .ok body ∧ deeper = Text.hang (k * o.indentSize) body := by
  rw [childList_eq_ok_iff, filter_map_hang] at h
  obtain ⟨hshown, rfl⟩ | ⟨hshown, inner', outer', hi', ho', rfl⟩ := h
  · exact ⟨"[]".toList, childList_eq_ok_iff.2 (.inl ⟨by simpa using hshown, rfl⟩), rfl⟩
  · have hlevel : ((level + k : Nat) : Int) + 1 = ((level + 1 + k : Nat) : Int) := by omega
    rw [hlevel] at hi'
    obtain ⟨inner, hi, rfl⟩ := indentation_add hi'
    obtain ⟨outer, ho, rfl⟩ := indentation_add ho'
    rw [Int.natCast_add, Int.natCast_one] at hi
    refine ⟨bracketed inner outer (codes.filter (· ≠ [])), ?_, ?_⟩
    · exact childList_eq_ok_iff.2 (.inr ⟨by simpa using hshown, inner, outer, hi, ho, rfl⟩)
    · have hinner : '\n' ∉ inner := fun m => by simpa using eq_space_of_mem_indentation hi _ m
      have houter : '\n' ∉ outer := fun m => by simpa using eq_space_of_mem_indentation ho _ m
      rw [bracketed, bracketed, Text.hang_cons (by decide), Text.hang_append, hang_lines hinner,
        Text.hang_newline_cons, Text.hang_append, Text.hang_of_notMem houter, List.append_assoc]
      rfl

/-! ### Trees -/

/-- The code of a node some levels deeper is its code with the spaces of these levels behind its line
feeds. -/
def HangsBelow (o : Options) (n : Node) : Prop :=
  ∀ (level k : Nat) (deeper : Text), layout o ((level + k : Nat) : Int) n = .ok deeper →
    ∃ code, layout o level n = .ok code ∧ deeper = Text.hang (k * o.indentSize) code

theorem layouts_hang {o : Options} {ns : List Node} (h : ∀ n ∈ ns, HangsBelow o n) {level k : Nat}
    {deeper : List Text} (hd : layouts o ((level + k : Nat) : Int) ns = .ok deeper) :
    ∃ codes, layouts o level ns = .ok codes ∧ deeper = codes.map (Text.hang (k * o.indentSize)) := by
  induction ns generalizing deeper with
  | nil => exact ⟨[], rfl, (Except.ok.inj hd).symm⟩
  | cons n ns ih =>
    obtain ⟨hn, hns⟩ := List.forall_mem_cons.1 h
    obtain ⟨first, hfirst, hd⟩ := Outcome.exists_of_bind_ok hd
    obtain ⟨others, hothers, hd⟩ := Outcome.exists_of_bind_ok hd
    obtain ⟨code, hcode, rfl⟩ := hn level k first hfirst
    obtain ⟨codes, hcodes, rfl⟩ := ih hns hothers
    refine ⟨code :: codes, ?_, (Except.ok.inj hd).symm⟩
    rw [layouts, hcode, hcodes]
    rfl

/-- A head without line feeds and the child list behind it are moved as the list is. -/
theorem hang_head_append {head : Text} (h : '\n' ∉ head) (width : Nat) (body : Text) :
    Text.hang width (head ++ ' ' :: body) = head ++ ' ' :: Text.hang width body := by
  rw [Text.hang_append, Text.hang_of_notMem h, Text.hang_cons (by decide)]

theorem map_hang_scriptTexts {n : Node} (h : ∀ c ∈ n.children, c.kind = .text → '\n' ∉ c.text)
    (width : Nat) : (scriptTexts n).map (Text.hang width) = scriptTexts n := by
  have hself : ∀ code ∈ scriptTexts n, Text.hang width code = code := by
    intro code hcode
    obtain ⟨c, hc, rfl⟩ := List.mem_map.1 hcode
    obtain ⟨hc, hk⟩ := List.mem_filter.1 hc
    apply Text.hang_of_notMem
    apply newline_notMem_textCode
    apply notMem_calm (by decide)
    intro m
    exact h c hc (of_decide_eq_true hk) (Text.mem_of_mem_strip m)
  rw [List.map_congr_left hself, List.map_id']

theorem hangsBelow (o : Options) (n : Node) : isUnbroken n = true → HangsBelow o n := by
  induction n using Node.induction with
  | step n ih =>
    intro hu level k deeper hd
    obtain ⟨kind, name, attrs, children, text⟩ := n
    cases kind with
    | text =>
      have hcode : '\n' ∉ textCode escape text :=
        newline_notMem_textCode (break_notMem_escape (.inl rfl) (Text.strip text))
      exact ⟨_, rfl, by rw [← Except.ok.inj hd, Text.hang_of_notMem hcode]⟩
    | script =>
      rw [isUnbroken, Bool.and_eq_true] at hu
      have htexts : ∀ c ∈ children, c.kind = .text → '\n' ∉ c.text := by
        intro c hc hk
        simpa [hk] using List.all_eq_true.1 hu.2 c hc
      have hhead : '\n' ∉ headCode "script".toList attrs := newline_notMem_headCode (by decide) hu.1
      obtain ⟨body', hb', rfl⟩ := layout_script_eq_ok_iff.1 hd
      rw [← map_hang_scriptTexts (n := ⟨.script, name, attrs, children, text⟩) htexts
        (k * o.indentSize)] at hb'
      obtain ⟨body, hb, rfl⟩ := childList_hang hb'
      exact ⟨_, layout_script_eq_ok_iff.2 ⟨body, hb, rfl⟩, (hang_head_append hhead _ body).symm⟩
    | element =>
      rw [isUnbroken, Bool.and_eq_true, Bool.and_eq_true] at hu
      obtain ⟨⟨hname, hattrs⟩, hchildren⟩ := hu
      have hhead := newline_notMem_headCode (of_decide_eq_true hname) hattrs
      by_cases hv : isVoid name
      · rw [layout, if_pos hv] at hd ⊢
        exact ⟨_, rfl, by rw [← Except.ok.inj hd, Text.hang_of_notMem hhead]⟩
      · have hrow : areUnbroken children = true := by simpa [hv] using hchildren
        rw [areUnbroken_iff] at hrow
        obtain ⟨codes', body', hc', hb', rfl⟩ := (layout_element_eq_ok_iff hv).1 hd
        have hlevel : ((level + k : Nat) : Int) + 1 = ((level + 1 + k : Nat) : Int) := by omega
        rw [hlevel] at hc'
        obtain ⟨codes, hc, rfl⟩ := layouts_hang (fun c hc => ih c hc (hrow c hc)) hc'
        obtain ⟨body, hb, rfl⟩ := childList_hang hb'
        rw [Int.natCast_add, Int.natCast_one] at hc
        have hcode : layout o level ⟨.element, name, attrs, children, text⟩ =
            .ok (headCode name attrs ++ ' ' :: body) :=
          (layout_element_eq_ok_iff hv).2 ⟨codes, body, hc, hb, rfl⟩
        exact ⟨_, hcode, (hang_head_append hhead _ body).symm⟩
    | document => exact ⟨[], rfl, (Except.ok.inj hd).symm⟩
    | other => exact ⟨[], rfl, (Except.ok.inj hd).symm⟩
    | unknown label => exact ⟨[], rfl, (Except.ok.inj hd).symm⟩

/-! ### Elements and documents -/

/-- The lines of a child list are the indented lines of its codes. -/
theorem lines_map_hang {codes : List Text} (hne : codes ≠ []) (width : Nat) :
    lines (List.replicate width ' ') (codes.map (Text.hang width)) =
      '\n' :: Text.indent width (['\n'].intercalate codes) := by
  obtain ⟨code, codes, rfl⟩ := List.exists_cons_of_ne_nil hne
  rw [Text.indent, Text.mapLines_intercalate _ hne, List.map_cons, ← newline_intercalate_map,
    ← List.map_cons, List.map_map]
  refine congrArg ('\n' :: ['\n'].intercalate ·) (List.map_congr_left ?_)
  intro code _
  exact (Text.indent_eq_hang width code).symm

/-- What stands in the brackets of an element, when the code of its children as a document is `inside`. -/
def wrapped (o : Options) (d : Nat) (inside : Text) : Text :=
  if inside = [] then "[]".toList
  else "[\n".toList ++ Text.indent ((d + 1) * o.indentSize) inside ++
    '\n' :: (List.replicate (d * o.indentSize) ' ' ++ [']'])

theorem childList_eq_wrapped {o : Options} {d : Nat} {codes : List Text} {body : Text}
    (h : childList o d (codes.map (Text.hang ((d + 1) * o.indentSize))) = .ok body) :
    body = wrapped o d (['\n'].intercalate (codes.filter (· ≠ []))) := by
  have hnil := intercalate_eq_nil_iff (filter_filter_ne_nil codes)
  rw [childList_eq_ok_iff, filter_map_hang] at h
  obtain ⟨hshown, rfl⟩ | ⟨hshown, inner, outer, hi, ho, rfl⟩ := h
  · rw [wrapped, if_pos (hnil.2 (by simpa using hshown))]
  · have hne : codes.filter (· ≠ []) ≠ [] := by simpa using hshown
    rw [← Int.natCast_one, ← Int.natCast_add] at hi
    rw [wrapped, if_neg (mt hnil.1 hne), bracketed, (indentation_eq_ok_iff.1 hi).2,
      (indentation_eq_ok_iff.1 ho).2, ← Int.natCast_mul, ← Int.natCast_mul, Int.toNat_natCast,
      Int.toNat_natCast, lines_map_hang hne]
    simp

/-- An element that is neither void nor a script, and whose children bring no line feed into their code,
is written as its head and, in brackets, the code of its children as a document, indented as a whole. -/
theorem emitNode_element_eq_wrapped {name : Text} (hvoid : isVoid name = false)
    (hscript : Text.lower name ≠ "script".toList) {children : List Node}
    (hu : areUnbroken children = true) (attrs : Attributes) (o : Options) (d : Nat) {code : Text}
    (h : emitNode o d (.element name attrs children) = .ok code) :
    ∃ inside, emitDocument o (.document children) = .ok inside ∧
      code = headCode name attrs ++ ' ' :: wrapped o d inside := by
  rw [emitNode_eq_layout, Node.element, Node.elementKind, if_neg hscript] at h
  obtain ⟨deeper, body, hdeeper, hbody, rfl⟩ := (layout_element_eq_ok_iff (by simp [hvoid])).1 h
  have hlevel : (d : Int) + 1 = ((0 + (d + 1) : Nat) : Int) := by omega
  rw [hlevel] at hdeeper
  have hchildren := (areUnbroken_iff children).1 hu
  obtain ⟨codes, hcodes, rfl⟩ := layouts_hang (fun c hc => hangsBelow o c (hchildren c hc)) hdeeper
  refine ⟨['\n'].intercalate (codes.filter (· ≠ [])), ?_, ?_⟩
  · have hshown := layouts_filter_of_ok hcodes
    rw [emitDocument_eq_map]
    exact congrArg (Except.map _) hshown
  · rw [childList_eq_wrapped hbody]

def listChildren : List Node :=
  [.element "li".toList [("a-b".toList, "\n".toList)] [.ofText "c\nd".toList], .element "br".toList,
    .ofText " ".toList]

def listCode : Text :=
  "_ul [] [\n    _li [ _aB_ \"\\n\" ] [\n      _text \"c\\nd\"\n    ]\n    _br []\n  ]".toList

theorem emitNode_list_eq_wrapped :
    isVoid "ul".toList = false ∧ Text.lower "ul".toList ≠ "script".toList ∧
      areUnbroken listChildren = true ∧
      emitNode { indentSize := 2 } 1 (.element "ul".toList [] listChildren) = .ok listCode ∧
      ∃ inside, emitDocument { indentSize := 2 } (.document listChildren) = .ok inside ∧
        listCode = headCode "ul".toList [] ++ ' ' :: wrapped { indentSize := 2 } 1 inside := by
  have hvoid : isVoid "ul".toList = false := by decide
  have hscript : Text.lower "ul".toList ≠ "script".toList := by decide
  have hu : areUnbroken listChildren = true := by decide
  have hcode : emitNode { indentSize := 2 } 1 (.element "ul".toList [] listChildren) = .ok listCode := by
    rw [emitNode_eq_layout]
    rfl
  exact ⟨hvoid, hscript, hu, hcode, emitNode_element_eq_wrapped hvoid hscript hu [] _ 1 hcode⟩

end MarkupCode.Code
