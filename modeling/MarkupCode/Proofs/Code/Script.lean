import MarkupCode.Proofs.Code.Fragment
import MarkupCode.Proofs.Code.Literal

/-!
# Closed scripts

A script is written with its quotes calmed and its backslashes as they are, so a text of it may take its
closing quote along: it does when it ends in an odd number of backslashes. `outside` is what stands outside
the literals of a code. When no text of a script takes its quote along, the script is closed, wherever it
stands: its literals end within it, and the brackets outside them match.
-/

namespace MarkupCode.Code

/-! ### Closed codes -/

/-- The text outside the literals of a code; none when a literal does not end. -/
def outside : Text → Option Text
  | [] => some []
  | c :: rest =>
    if c = '"' then
      match _h : breakLiteral rest with
      | none => none
      | some (_, behind) => outside behind
    else (outside rest).map (c :: ·)
termination_by s => s.length
decreasing_by
  · rw [(isInside_of_breakLiteral _h).1, List.length_cons, List.length_append, List.length_cons]
    omega
  · exact Nat.lt_succ_self _

theorem outside_cons {c : Char} (hc : c ≠ '"') (rest : Text) :
    outside (c :: rest) = (outside rest).map (c :: ·) := by
  rw [outside, if_neg hc]

theorem outside_literal {inside : Text} (h : IsInside inside) (rest : Text) :
    outside ('"' :: (inside ++ '"' :: rest)) = outside rest := by
  rw [outside, if_pos rfl]
  split
  · next hnone => rw [breakLiteral_append h] at hnone; cases hnone
  · next hsome =>
    rw [breakLiteral_append h] at hsome
    cases hsome
    rfl

inductive IsBalanced : Text → Prop
  | nil : IsBalanced []
  | cons {c : Char} {s : Text} : c ≠ '[' → c ≠ ']' → IsBalanced s → IsBalanced (c :: s)
  | bracket {inside s : Text} : IsBalanced inside → IsBalanced s →
    IsBalanced ('[' :: (inside ++ ']' :: s))

theorem IsBalanced.append {s t : Text} (hs : IsBalanced s) (ht : IsBalanced t) : IsBalanced (s ++ t) := by
  induction hs with
  | nil => exact ht
  | cons hopen hclose _ ih => exact .cons hopen hclose ih
  | bracket hinside _ _ ih =>
    rw [List.cons_append, List.append_assoc, List.cons_append]
    exact .bracket hinside ih

/-- Wherever the code stands, its literals end within it, and the brackets outside them match. -/
def IsClosed (code : Text) : Prop :=
  ∃ frame, IsBalanced frame ∧ ∀ rest, outside (code ++ rest) = (outside rest).map (frame ++ ·)

theorem isClosed_nil : IsClosed [] := ⟨[], .nil, fun rest => by simp⟩

theorem IsClosed.append {s t : Text} (hs : IsClosed s) (ht : IsClosed t) : IsClosed (s ++ t) := by
  obtain ⟨frame, hbalanced, hs⟩ := hs
  obtain ⟨frame', hbalanced', ht⟩ := ht
  refine ⟨frame ++ frame', hbalanced.append hbalanced', fun rest => ?_⟩
  rw [List.append_assoc, hs, ht, Option.map_map]
  simp only [Function.comp_def, List.append_assoc]

def isPlain (c : Char) : Bool := c ≠ '"' && c ≠ '[' && c ≠ ']'

theorem IsClosed.cons {c : Char} {s : Text} (hc : isPlain c = true) (hs : IsClosed s) :
    IsClosed (c :: s) := by
  simp only [isPlain, Bool.and_eq_true, decide_eq_true_eq] at hc
  obtain ⟨⟨hquote, hopen⟩, hclose⟩ := hc
  obtain ⟨frame, hbalanced, hs⟩ := hs
  refine ⟨c :: frame, hbalanced.cons hopen hclose, fun rest => ?_⟩
  rw [List.cons_append, outside_cons hquote, hs, Option.map_map]
  rfl

theorem isClosed_of_plain {s : Text} (h : s.all isPlain = true) : IsClosed s := by
  induction s with
  | nil => exact isClosed_nil
  | cons c s ih =>
    rw [List.all_cons, Bool.and_eq_true] at h
    exact (ih h.2).cons h.1

theorem IsClosed.bracket {s : Text} (hs : IsClosed s) : IsClosed ('[' :: (s ++ [']'])) := by
  obtain ⟨frame, hbalanced, hs⟩ := hs
  refine ⟨'[' :: (frame ++ [']']), hbalanced.bracket .nil, fun rest => ?_⟩
  rw [List.cons_append, outside_cons (by decide), List.append_assoc, hs, List.singleton_append,
    outside_cons (by decide), Option.map_map, Option.map_map]
  simp [Function.comp_def]

theorem isClosed_literal {inside : Text} (h : IsInside inside) :
    IsClosed ('"' :: (inside ++ ['"'])) := by
  refine ⟨[], .nil, fun rest => ?_⟩
  rw [List.cons_append, List.append_assoc, List.singleton_append, outside_literal h]
  simp

theorem IsClosed.outside {code : Text} (h : IsClosed code) :
    ∃ frame, outside code = some frame ∧ IsBalanced frame := by
  obtain ⟨frame, hbalanced, h⟩ := h
  have hcode := h []
  rw [List.append_nil, Code.outside] at hcode
  exact ⟨frame ++ [], hcode, by simpa using hbalanced⟩

/-! ### Attribute lists -/

def isPlainAttribute (a : Text × Text) : Bool := (camelCase a.1).all isPlain

theorem isClosed_intercalate {separator : Text} (hs : IsClosed separator) {codes : List Text}
    (h : ∀ code ∈ codes, IsClosed code) : IsClosed (separator.intercalate codes) := by
  induction codes with
  | nil => exact isClosed_nil
  | cons code codes ih =>
    obtain ⟨hcode, hcodes⟩ := List.forall_mem_cons.1 h
    cases codes with
    | nil => rwa [List.intercalate_singleton]
    | cons next codes =>
      rw [List.intercalate_cons_cons]
      exact (hcode.append hs).append (ih hcodes)

theorem isClosed_attributeCode {a : Text × Text} (ha : isPlainAttribute a = true) :
    IsClosed (attributeCode a.1 a.2) := by
  have hidentifier : IsClosed (identifier a.1) :=
    ((isClosed_of_plain ha).cons (by decide)).append (isClosed_of_plain (by decide))
  unfold attributeCode
  split
  · exact hidentifier
  · have hvalue := (isClosed_literal (isInside_escape a.2)).cons (c := ' ') (by decide)
    have hcode : identifier a.1 ++ " \"".toList ++ escape a.2 ++ ['"'] =
        identifier a.1 ++ ' ' :: '"' :: (escape a.2 ++ ['"']) := by simp
    rw [hcode]
    exact hidentifier.append hvalue

theorem isClosed_attributeList {attrs : Attributes} (ha : ∀ a ∈ attrs, isPlainAttribute a = true) :
    IsClosed (attributeList (attributeCodes attrs)) := by
  unfold attributeList
  split
  · exact isClosed_nil.bracket
  · have hcodes : ∀ code ∈ attributeCodes attrs, IsClosed code := by
      intro code hcode
      obtain ⟨a, hmem, rfl⟩ := List.mem_map.1 hcode
      exact isClosed_attributeCode (ha a hmem)
    have hrow := isClosed_intercalate (isClosed_of_plain (s := "; ".toList) (by decide)) hcodes
    have hspaced := (hrow.cons (c := ' ') (by decide)).append (isClosed_of_plain (s := [' ']) (by decide))
    have hlist : "[ ".toList ++ "; ".toList.intercalate (attributeCodes attrs) ++ " ]".toList =
        '[' :: (' ' :: "; ".toList.intercalate (attributeCodes attrs) ++ [' '] ++ [']']) := by simp
    rw [hlist]
    exact hspaced.bracket

theorem isClosed_headCode {name : Text} (hn : name.all isPlain = true) {attrs : Attributes}
    (ha : ∀ a ∈ attrs, isPlainAttribute a = true) : IsClosed (headCode name attrs) :=
  ((isClosed_of_plain hn).append ((isClosed_attributeList ha).cons (by decide))).cons (by decide)

/-! ### Child lists -/

theorem isClosed_of_spaces {s : Text} (h : ∀ c ∈ s, c = ' ') : IsClosed s := by
  apply isClosed_of_plain
  rw [List.all_eq_true]
  intro c hc
  rw [h c hc]
  decide

theorem isClosed_lines {inner : Text} (hi : ∀ c ∈ inner, c = ' ') {codes : List Text}
    (h : ∀ code ∈ codes, IsClosed code) : IsClosed (lines inner codes) := by
  induction codes with
  | nil => exact isClosed_nil
  | cons code codes ih =>
    obtain ⟨hcode, hcodes⟩ := List.forall_mem_cons.1 h
    exact (((isClosed_of_spaces hi).append hcode).cons (by decide)).append (ih hcodes)

theorem isClosed_childList {o : Options} {level : Int} {codes : List Text} {body : Text}
    (h : ∀ code ∈ codes.filter (· ≠ []), IsClosed code) (hb : childList o level codes = .ok body) :
    IsClosed body := by
  obtain ⟨-, rfl⟩ | ⟨-, inner, outer, hi, ho, rfl⟩ := childList_eq_ok_iff.1 hb
  · exact isClosed_nil.bracket
  · have hlines := isClosed_lines (eq_space_of_mem_indentation hi) h
    have hend := (isClosed_of_spaces (eq_space_of_mem_indentation ho)).cons (c := '\n') (by decide)
    have hbody : bracketed inner outer (codes.filter (· ≠ [])) =
        '[' :: (lines inner (codes.filter (· ≠ [])) ++ '\n' :: outer ++ [']']) := by
      simp [bracketed]
    rw [hbody]
    exact (hlines.append hend).bracket

theorem isClosed_textCode {s : Text} (h : Even (trailing (Text.strip s))) :
    IsClosed (textCode calm s) := by
  unfold textCode
  split
  · exact isClosed_nil
  · have hliteral := isClosed_literal (isInside_calm_iff.2 h)
    have hcode : "_text \"".toList ++ calm (Text.strip s) ++ ['"'] =
        "_text ".toList ++ '"' :: (calm (Text.strip s) ++ ['"']) := by simp
    rw [hcode]
    exact (isClosed_of_plain (by decide)).append hliteral

/-! ### Scripts -/

def margin (o : Options) (level : Int) : Text := List.replicate (level * o.indentSize).toNat ' '

def literalLines (o : Options) (level : Int) (row : List Node) : Text :=
  lines (margin o (level + 1)) ((row.filter isShownText).map fun c => textCode calm c.text)

/-- The code of a script from its beginning into the literal behind the children `before`. -/
def beforeLiteral (o : Options) (level : Int) (attrs : Attributes) (before : List Node) : Text :=
  headCode "script".toList attrs ++ " [".toList ++ literalLines o level before ++
    '\n' :: margin o (level + 1) ++ "_text \"".toList

def behindLiteral (o : Options) (level : Int) (after : List Node) : Text :=
  literalLines o level after ++ '\n' :: margin o level ++ [']']

section

variable {o : Options} {level : Int} {n : Node} {code : Text}

theorem layout_of_script (hk : n.kind = .script) (h : emitNode o level n = .ok code) :
    ∃ body, childList o level (scriptTexts n) = .ok body ∧
      code = headCode "script".toList n.attrs ++ ' ' :: body := by
  obtain ⟨kind, name, attrs, children, text⟩ := n
  cases hk
  rw [emitNode_eq_layout] at h
  exact layout_script_eq_ok_iff.1 h

/-- Every text of a script that is not blank has its literal in the code, in the order of the texts. -/
theorem code_eq_around_literal (hk : n.kind = .script) (h : emitNode o level n = .ok code)
    {before after : List Node} {c : Node} (hn : n.children = before ++ c :: after)
    (hc : isShownText c = true) :
    code = beforeLiteral o level n.attrs before ++
      (calm (Text.strip c.text) ++ '"' :: behindLiteral o level after) := by
  obtain ⟨body, hbody, rfl⟩ := layout_of_script hk h
  have hshown : (scriptTexts n).filter (· ≠ []) =
      (before.filter isShownText).map (fun c => textCode calm c.text) ++
        textCode calm c.text :: (after.filter isShownText).map fun c => textCode calm c.text := by
    rw [scriptTexts_filter, hn, List.filter_append, List.filter_cons_of_pos hc, List.map_append,
      List.map_cons]
  obtain ⟨hnil, -⟩ | ⟨-, inner, outer, hi, ho, rfl⟩ := childList_eq_ok_iff.1 hbody
  · rw [hshown] at hnil
    simp at hnil
  · have hliteral : textCode calm c.text = "_text \"".toList ++ calm (Text.strip c.text) ++ ['"'] := by
      rw [isShownText, Bool.and_eq_true] at hc
      rw [textCode, if_neg (of_decide_eq_true hc.2)]
    rw [(indentation_eq_ok_iff.1 hi).2, (indentation_eq_ok_iff.1 ho).2, hshown, bracketed, lines,
      List.flatMap_append, List.flatMap_cons, hliteral]
    simp only [beforeLiteral, behindLiteral, literalLines, margin, lines, List.append_assoc,
      List.cons_append, List.nil_append]
    rfl

/-- A script is closed when none of its texts takes its closing quote along. -/
theorem isClosed_of_script (hk : n.kind = .script) (h : emitNode o level n = .ok code)
    (ha : ∀ a ∈ n.attrs, isPlainAttribute a = true)
    (heven : ∀ c ∈ n.children, isShownText c = true → Even (trailing (Text.strip c.text))) :
    IsClosed code := by
  obtain ⟨body, hbody, rfl⟩ := layout_of_script hk h
  have htexts : ∀ code ∈ (scriptTexts n).filter (· ≠ []), IsClosed code := by
    rw [scriptTexts_filter]
    intro code hcode
    obtain ⟨c, hc, rfl⟩ := List.mem_map.1 hcode
    obtain ⟨hc, hshown⟩ := List.mem_filter.1 hc
    exact isClosed_textCode (heven c hc hshown)
  have hname : "script".toList.all isPlain = true := by decide
  have hhead := isClosed_headCode hname ha
  exact hhead.append ((isClosed_childList htexts hbody).cons (by decide))

end

/-- The literal of a text in a script has no quote inside, and it ends at its own quote exactly when the
stripped text ends in an even number of backslashes. A script whose texts all do so has its brackets
matched outside its literals, when its identifiers have neither quotes nor brackets. -/
theorem breakLiteral_script_iff_and_isBalanced (o : Options) (level : Int) (n : Node) (code : Text)
    (hk : n.kind = .script) (h : emitNode o level n = .ok code) :
    (∀ before c after, n.children = before ++ c :: after → isShownText c = true →
      code = beforeLiteral o level n.attrs before ++
          (calm (Text.strip c.text) ++ '"' :: behindLiteral o level after) ∧
        '"' ∉ calm (Text.strip c.text) ∧
        (breakLiteral (calm (Text.strip c.text) ++ '"' :: behindLiteral o level after) =
            some (calm (Text.strip c.text), behindLiteral o level after) ↔
          Even (trailing (Text.strip c.text)))) ∧
    ((∀ c ∈ n.children, isShownText c = true → Even (trailing (Text.strip c.text))) →
      (∀ a ∈ n.attrs, isPlainAttribute a = true) →
      ∃ frame, outside code = some frame ∧ IsBalanced frame) := by
  constructor
  · intro before c after hn hc
    refine ⟨code_eq_around_literal hk h hn hc, quote_notMem_calm _, ?_⟩
    rw [breakLiteral_eq_some_iff, isInside_calm_iff]
    exact and_iff_right rfl
  · intro heven ha
    exact (isClosed_of_script hk h ha heven).outside

def quotingScript : Node :=
  .element "script".toList [("src".toList, "[\"".toList)]
    [.ofText "a[0] = \"]\\\\".toList, .inert "b".toList, .ofText "c\n".toList]

def quotingCode : Text :=
  "_script [ _src_ \"[\\\"\" ] [\n  _text \"a[0] = ']\\\\\"\n  _text \"c\"\n]".toList

def openScript : Node := .element "script".toList [] [.ofText "a\\".toList]

def openCode : Text := "_script [] [\n  _text \"a\\\"\n]".toList

theorem script_literals_end :
    quotingScript.kind = .script ∧ emitNode { indentSize := 2 } 0 quotingScript = .ok quotingCode ∧
      breakLiteral "a[0] = ']\\\\\"\n  _text \"c\"\n]".toList =
        some ("a[0] = ']\\\\".toList, "\n  _text \"c\"\n]".toList) ∧
      (∃ frame, outside quotingCode = some frame ∧ IsBalanced frame) ∧
      openScript.kind = .script ∧ emitNode { indentSize := 2 } 0 openScript = .ok openCode ∧
      breakLiteral "a\\\"\n]".toList ≠ some ("a\\".toList, "\n]".toList) := by
  have hquoting : emitNode { indentSize := 2 } 0 quotingScript = .ok quotingCode := by
    rw [emitNode_eq_layout]
    rfl
  have hopen : emitNode { indentSize := 2 } 0 openScript = .ok openCode := by
    rw [emitNode_eq_layout]
    rfl
  have hkind : quotingScript.kind = .script := by decide
  have hkind' : openScript.kind = .script := by decide
  obtain ⟨hliterals, hframe⟩ :=
    breakLiteral_script_iff_and_isBalanced { indentSize := 2 } 0 quotingScript _ hkind hquoting
  obtain ⟨hliterals', -⟩ :=
    breakLiteral_script_iff_and_isBalanced { indentSize := 2 } 0 openScript _ hkind' hopen
  obtain ⟨-, -, hends⟩ := hliterals [] _ _ rfl (by decide)
  obtain ⟨-, -, hends'⟩ := hliterals' [] _ _ rfl (by decide)
  exact ⟨hkind, hquoting, hends.2 (by decide), hframe (by decide) (by decide), hkind', hopen,
    fun h => absurd (hends'.1 h) (by decide)⟩

end MarkupCode.Code
