import Mathlib.Data.List.Forall2
import MarkupCode.Code.Reader
import MarkupCode.Proofs.Code.Layout
import MarkupCode.Proofs.Code.Literal
import MarkupCode.Proofs.Text.Blank
import MarkupCode.Proofs.Text.Scan

/-!
# Code reads back

`isLegible` tells the trees whose names leave the notation alone: no space in the name of an element,
neither space nor semicolon in an identifier, no backslash in a script. The code of such a tree, and
the code of a document of them, is read back as the content of the tree, whatever its texts and values
hold. `Reads` is what one expression owes to its surroundings: it is read up to its end behind which no
space follows, with no more fuel than it has characters.
-/

namespace MarkupCode.Code

def isLegibleAttribute (a : Text × Text) : Bool := (camelCase a.1).all isIdentifierChar

mutual
def isLegible : Node → Bool
  | ⟨kind, name, attrs, children, _⟩ =>
    match kind with
    | .element =>
      name.all (· ≠ ' ') && attrs.all isLegibleAttribute && (isVoid name || areLegible children)
    | .script =>
      attrs.all isLegibleAttribute && children.all fun c => c.kind ≠ .text || '\\' ∉ c.text
    | _ => true

def areLegible : List Node → Bool
  | [] => true
  | c :: cs => isLegible c && areLegible cs
end

/-! ### Literals -/

theorem readLiteral_escape (s rest : Text) :
    readLiteral (escape s ++ '"' :: rest) = some (s, rest) := by
  simp [readLiteral, breakLiteral_escape, unescape_escape]

theorem unescape_of_notMem {s : Text} (h : '\\' ∉ s) : unescape s = some s := by
  induction s with
  | nil => rfl
  | cons c s ih =>
    have hc : c ≠ '\\' := fun e => h (by simp [e])
    rw [unescape.eq_3]
    · rw [if_neg hc, ih (fun m => h (by simp [m]))]
      rfl
    · exact fun _ _ e => absurd e hc

theorem readLiteral_calm {s : Text} (h : '\\' ∉ s) (rest : Text) :
    readLiteral (calm s ++ '"' :: rest) = some (calm s, rest) := by
  have hinside : IsInside (calm s) := isInside_calm_iff.2 (trailing_eq_zero_of_notMem h ▸ Even.zero)
  have hbackslash : '\\' ∉ calm s := notMem_calm (by decide) h
  simp [readLiteral, breakLiteral_append hinside, unescape_of_notMem hbackslash]

/-! ### Attribute lists -/

theorem all_identifier {a : Text × Text} (h : isLegibleAttribute a) :
    ∀ c ∈ identifier a.1, isIdentifierChar c = true := by
  intro c hc
  simp only [identifier, List.cons_append, List.mem_cons, List.mem_append, List.not_mem_nil,
    or_false] at hc
  rcases hc with rfl | hc | rfl
  · decide
  · exact List.all_eq_true.1 h c hc
  · decide

/-- An attribute is read up to the semicolon or the closing bracket behind it. -/
theorem readAttribute_attributeCode {a : Text × Text} (ha : isLegibleAttribute a) (rest : Text)
    (hr : (∃ r, rest = ' ' :: ']' :: r) ∨ ∃ r, rest = ';' :: r) :
    readAttribute (attributeCode a.1 a.2 ++ rest) = some (attributeContent a, rest) := by
  have hid := all_identifier ha
  have hstop : ∀ c ∈ rest.head?, isIdentifierChar c = false := by
    rcases hr with ⟨r, rfl⟩ | ⟨r, rfl⟩ <;> simp [isIdentifierChar]
  unfold attributeCode attributeContent readAttribute
  split
  · rw [Text.takeWhile_append_stop hid hstop, Text.dropWhile_append_stop hid hstop]
    rcases hr with ⟨r, rfl⟩ | ⟨r, rfl⟩ <;> rfl
  · have hspace : ∀ c ∈ (" \"".toList ++ (escape a.2 ++ '"' :: rest)).head?,
        isIdentifierChar c = false := by simp [isIdentifierChar]
    simp only [List.append_assoc, List.singleton_append]
    rw [Text.takeWhile_append_stop hid hspace, Text.dropWhile_append_stop hid hspace]
    change Option.map _ (readLiteral (escape a.2 ++ '"' :: rest)) = _
    rw [readLiteral_escape]
    rfl

theorem readAttributes_last {fuel : Nat} {s rest : Text} {a : Text × Option Text}
    (h : readAttribute s = some (a, ' ' :: ']' :: rest)) :
    readAttributes (fuel + 1) s = some ([a], rest) := by
  rw [readAttributes, h]
  rfl

theorem readAttributes_more {fuel : Nat} {s t rest : Text} {a : Text × Option Text}
    {more : List (Text × Option Text)} (h : readAttribute s = some (a, ';' :: ' ' :: t))
    (hm : readAttributes fuel t = some (more, rest)) :
    readAttributes (fuel + 1) s = some (a :: more, rest) := by
  rw [readAttributes, h]
  change Option.bind (readAttributes fuel t) _ = _
  rw [hm]
  rfl

/-- The attributes of a list behind its opening bracket. -/
theorem readAttributes_codes {attrs : Attributes} (hne : attrs ≠ [])
    (ha : ∀ a ∈ attrs, isLegibleAttribute a) (fuel : Nat) (hf : attrs.length ≤ fuel) (rest : Text) :
    readAttributes fuel ("; ".toList.intercalate (attributeCodes attrs) ++ (" ]".toList ++ rest)) =
      some (attrs.map attributeContent, rest) := by
  induction attrs generalizing fuel with
  | nil => exact absurd rfl hne
  | cons a attrs ih =>
    obtain ⟨fuel, rfl⟩ : ∃ k, fuel = k + 1 := ⟨fuel - 1, by simp at hf; omega⟩
    have hfirst := readAttribute_attributeCode (ha a List.mem_cons_self)
    cases attrs with
    | nil =>
      have hcodes : "; ".toList.intercalate (attributeCodes [a]) = attributeCode a.1 a.2 :=
        List.intercalate_singleton
      rw [hcodes]
      exact readAttributes_last (hfirst (" ]".toList ++ rest) (.inl ⟨rest, rfl⟩))
    | cons b attrs =>
      have hcodes : "; ".toList.intercalate (attributeCodes (a :: b :: attrs)) =
          attributeCode a.1 a.2 ++ "; ".toList ++
            "; ".toList.intercalate (attributeCodes (b :: attrs)) :=
        List.intercalate_cons_cons
      have hmore := ih (by simp) (fun c hc => ha c (List.mem_cons_of_mem a hc)) fuel
        (by simpa using hf)
      rw [hcodes, List.append_assoc, List.append_assoc]
      exact readAttributes_more (hfirst ("; ".toList ++ _) (.inr ⟨_, rfl⟩)) hmore

theorem readAttributeList_codes {attrs : Attributes} (ha : ∀ a ∈ attrs, isLegibleAttribute a)
    {fuel : Nat} (hf : attrs.length ≤ fuel) (rest : Text) :
    readAttributeList fuel (attributeList (attributeCodes attrs) ++ rest) =
      some (attrs.map attributeContent, rest) := by
  by_cases hne : attrs = []
  · subst hne
    rfl
  · have hcodes : attributeCodes attrs ≠ [] := by simpa [attributeCodes] using hne
    rw [attributeList, if_neg hcodes, List.append_assoc, List.append_assoc]
    exact readAttributes_codes hne ha fuel hf rest

theorem length_le_intercalate (sep : Text) {codes : List Text} (h : ∀ c ∈ codes, c ≠ []) :
    codes.length ≤ (sep.intercalate codes).length := by
  induction codes with
  | nil => simp
  | cons c codes ih =>
    have hc := List.length_pos_iff.2 (h c List.mem_cons_self)
    have ih := ih fun d hd => h d (List.mem_cons_of_mem c hd)
    cases codes with
    | nil =>
      rw [List.intercalate_singleton, List.length_singleton]
      omega
    | cons d codes =>
      rw [List.intercalate_cons_cons, List.length_append, List.length_append]
      simp only [List.length_cons] at ih ⊢
      omega

theorem length_le_attributeList (attrs : Attributes) :
    attrs.length ≤ (attributeList (attributeCodes attrs)).length := by
  have hcodes : ∀ c ∈ attributeCodes attrs, c ≠ [] := by
    intro c hc
    obtain ⟨a, _, rfl⟩ := List.mem_map.1 hc
    unfold attributeCode identifier
    split <;> simp
  have hl := length_le_intercalate "; ".toList hcodes
  unfold attributeList
  split
  · next h => simp [List.map_eq_nil_iff.1 h]
  · simp only [attributeCodes, List.length_map, List.length_append] at hl ⊢
    omega

/-! ### Expressions -/

theorem readExpression_text {fuel : Nat} {rest rest' s : Text}
    (h : readLiteral rest = some (s, rest')) :
    readExpression (fuel + 1) ("_text \"".toList ++ rest) = some (.text s, rest') := by
  change (readLiteral rest).map _ = _
  rw [h]
  rfl

/-- A name and an attribute list; `tail` decides on the children. -/
theorem readExpression_head {name : Text} (hn : ' ' ∉ name) {attrs : Attributes}
    (ha : ∀ a ∈ attrs, isLegibleAttribute a) {fuel : Nat} (hf : attrs.length ≤ fuel) (tail : Text) :
    readExpression (fuel + 1) (headCode name attrs ++ tail) =
      match tail with
      | ' ' :: '[' :: ']' :: rest =>
        some (.element name (attrs.map attributeContent) (some []), rest)
      | ' ' :: '[' :: rest => do
        let (children, rest) ← readChildren fuel rest
        return (.element name (attrs.map attributeContent) (some children), rest)
      | rest => some (.element name (attrs.map attributeContent) none, rest) := by
  have hin : ∀ c ∈ name, decide (c ≠ ' ') = true := by
    intro c hc
    apply decide_eq_true
    rintro rfl
    exact hn hc
  have hstop (t : Text) : ∀ c ∈ (' ' :: t).head?, decide (c ≠ ' ') = false := by simp
  have hcode : headCode name attrs ++ tail =
      '_' :: (name ++ ' ' :: (attributeList (attributeCodes attrs) ++ tail)) := by
    simp [headCode]
  rw [hcode, readExpression, Text.takeWhile_append_stop hin (hstop _),
    Text.dropWhile_append_stop hin (hstop _)]
  obtain ⟨l, hl⟩ : ∃ l, attributeList (attributeCodes attrs) = '[' :: l := by
    unfold attributeList
    split <;> exact ⟨_, rfl⟩
  have hlist := readAttributeList_codes ha hf tail
  rw [hl, List.cons_append] at hlist ⊢
  change Option.bind (readAttributeList fuel ('[' :: (l ++ tail))) _ = _
  rw [hlist]
  rfl

/-- A code that is read as a content wherever it stands, unless a space follows. -/
def Reads (code : Text) (c : Content) : Prop :=
  code.head? = some '_' ∧ ∀ (fuel : Nat) (rest : Text), code.length ≤ fuel →
    rest.head? ≠ some ' ' → readExpression fuel (code ++ rest) = some (c, rest)

theorem Reads.cons_append {code : Text} {c : Content} (h : Reads code c) (rest : Text) :
    ∃ s, code ++ rest = '_' :: s := by
  obtain ⟨s, rfl⟩ := List.head?_eq_some_iff.1 h.1
  exact ⟨s ++ rest, rfl⟩

theorem Reads.length_pos {code : Text} {c : Content} (h : Reads code c) : 0 < code.length := by
  obtain ⟨s, rfl⟩ := List.head?_eq_some_iff.1 h.1
  simp

theorem reads_literal {inside s : Text}
    (h : ∀ rest, readLiteral (inside ++ '"' :: rest) = some (s, rest)) :
    Reads ("_text \"".toList ++ inside ++ ['"']) (.text s) := by
  refine ⟨rfl, ?_⟩
  intro fuel rest hf _
  obtain ⟨fuel, rfl⟩ : ∃ k, fuel = k + 1 := ⟨fuel - 1, by simp at hf; omega⟩
  rw [List.append_assoc, List.append_assoc]
  exact readExpression_text (h rest)

theorem reads_void {name : Text} (hn : ' ' ∉ name) {attrs : Attributes}
    (ha : ∀ a ∈ attrs, isLegibleAttribute a) :
    Reads (headCode name attrs) (.element name (attrs.map attributeContent) none) := by
  refine ⟨rfl, ?_⟩
  intro fuel rest hf hr
  have hl := length_le_attributeList attrs
  simp only [headCode, List.cons_append, List.length_cons, List.length_append] at hf
  obtain ⟨fuel, rfl⟩ : ∃ k, fuel = k + 1 := ⟨fuel - 1, by omega⟩
  rw [readExpression_head hn ha (by omega)]
  cases rest with
  | nil => rfl
  | cons c rest =>
    have hc : c ≠ ' ' := by simpa using hr
    split
    · next h => exact absurd (List.cons.inj h).1 hc
    · next h => exact absurd (List.cons.inj h).1 hc
    · rfl

/-! ### Child lists -/

theorem readChildren_end {outer : Text} (ho : ∀ c ∈ outer, c = ' ') (fuel : Nat) (rest : Text) :
    readChildren (fuel + 1) ('\n' :: (outer ++ ']' :: rest)) = some ([], rest) := by
  have hstop : (outer ++ ']' :: rest).dropWhile (· = ' ') = ']' :: rest :=
    Text.dropWhile_append_stop (by simpa using ho) (by simp)
  rw [readChildren, hstop]
  rfl

theorem readChildren_more {inner code rest rest' : Text} (hi : ∀ c ∈ inner, c = ' ') {c : Content}
    {cs : List Content} (hc : Reads code c) {fuel : Nat} (hf : code.length ≤ fuel)
    (hr : rest.head? ≠ some ' ') (hmore : readChildren fuel rest = some (cs, rest')) :
    readChildren (fuel + 1) ('\n' :: (inner ++ (code ++ rest))) = some (c :: cs, rest') := by
  have hread := hc.2 fuel rest hf hr
  obtain ⟨s, hs⟩ := hc.cons_append rest
  have hstop : (inner ++ (code ++ rest)).dropWhile (· = ' ') = code ++ rest :=
    Text.dropWhile_append_stop (by simpa using hi) (by simp [hs])
  rw [readChildren, hstop]
  rw [hs] at hread ⊢
  change Option.bind (readExpression fuel ('_' :: s)) _ = _
  rw [hread]
  change Option.bind (readChildren fuel rest) _ = _
  rw [hmore]
  rfl

theorem lines_append_eq_cons (inner : Text) (codes : List Text) (rest : Text) :
    ∃ t, lines inner codes ++ '\n' :: rest = '\n' :: t := by
  cases codes with
  | nil => exact ⟨rest, rfl⟩
  | cons c codes => exact ⟨_, rfl⟩

/-- The lines of a child list, up to the bracket that closes it. -/
theorem readChildren_lines {codes : List Text} {cs : List Content} (h : List.Forall₂ Reads codes cs)
    {inner outer : Text} (hi : ∀ c ∈ inner, c = ' ') (ho : ∀ c ∈ outer, c = ' ') {fuel : Nat}
    (hf : (lines inner codes).length < fuel) (rest : Text) :
    readChildren fuel (lines inner codes ++ '\n' :: (outer ++ ']' :: rest)) = some (cs, rest) := by
  induction h generalizing fuel with
  | nil =>
    obtain ⟨fuel, rfl⟩ : ∃ k, fuel = k + 1 := ⟨fuel - 1, by omega⟩
    exact readChildren_end ho fuel rest
  | @cons code c codes cs hc hcs ih =>
    simp only [lines_cons, List.cons_append, List.length_append, List.length_cons] at hf
    obtain ⟨fuel, rfl⟩ : ∃ k, fuel = k + 1 := ⟨fuel - 1, by omega⟩
    rw [lines_cons, List.append_assoc, List.cons_append, List.append_assoc]
    apply readChildren_more hi hc (by omega) ?_ (ih (by omega))
    obtain ⟨t, ht⟩ := lines_append_eq_cons inner codes (outer ++ ']' :: rest)
    simp [ht]

theorem filter_eq_self_of_reads {codes : List Text} {cs : List Content}
    (h : List.Forall₂ Reads codes cs) : codes.filter (· ≠ []) = codes := by
  induction h with
  | nil => rfl
  | cons hc _ ih =>
    have hne := List.length_pos_iff.1 hc.length_pos
    rw [List.filter_cons_of_pos (by simpa using hne), ih]

/-- A name, an attribute list and the child list of codes that can be read. -/
theorem reads_childList {name : Text} (hn : ' ' ∉ name) {attrs : Attributes}
    (ha : ∀ a ∈ attrs, isLegibleAttribute a) {codes : List Text} {cs : List Content}
    (h : List.Forall₂ Reads codes cs) {o : Options} {level : Int} {body : Text}
    (hb : childList o level codes = .ok body) :
    Reads (headCode name attrs ++ ' ' :: body)
      (.element name (attrs.map attributeContent) (some cs)) := by
  refine ⟨rfl, ?_⟩
  intro fuel rest hf hr
  have hl := length_le_attributeList attrs
  simp only [headCode, List.cons_append, List.length_cons, List.length_append] at hf
  obtain ⟨fuel, rfl⟩ : ∃ k, fuel = k + 1 := ⟨fuel - 1, by omega⟩
  rw [List.append_assoc, List.cons_append, readExpression_head hn ha (by omega)]
  by_cases hne : codes = []
  · subst hne
    cases h
    rw [← Except.ok.inj hb]
    rfl
  · rw [childList_of_ne_nil hne (filter_eq_self_of_reads h)] at hb
    obtain ⟨inner, hi, hb⟩ := Outcome.exists_of_bind_ok hb
    obtain ⟨outer, ho, hb⟩ := Outcome.exists_of_bind_ok hb
    have hbody := Except.ok.inj hb
    subst hbody
    simp only [List.length_append, List.length_cons] at hf
    have hlines := readChildren_lines h (eq_space_of_mem_indentation hi)
      (eq_space_of_mem_indentation ho) (by omega : _ < fuel) rest
    obtain ⟨t, ht⟩ := lines_append_eq_cons inner codes (outer ++ ']' :: rest)
    have htail : '[' :: (lines inner codes ++ '\n' :: (outer ++ [']'])) ++ rest = '[' :: '\n' :: t := by
      rw [← ht]
      simp
    rw [ht] at hlines
    rw [htail]
    change Option.bind (readChildren fuel ('\n' :: t)) _ = _
    rw [hlines]
    rfl

/-! ### Trees -/

theorem reads_textCode {escaping : Text → Text} {s t : Text}
    (h : ∀ rest, readLiteral (escaping (Text.strip s) ++ '"' :: rest) = some (t, rest)) :
    List.Forall₂ Reads ([textCode escaping s].filter (· ≠ []))
      (if Text.strip s = [] then [] else [.text t]) := by
  by_cases hs : Text.strip s = []
  · rw [textCode, if_pos hs, if_pos hs]
    exact .nil
  · rw [textCode, if_neg hs, if_neg hs, List.filter_cons_of_pos (by simp)]
    exact .cons (reads_literal h) .nil

theorem scriptContents_cons_of_text {c : Node} (hk : c.kind = .text) (cs : List Node) :
    scriptContents (c :: cs) =
      (if Text.strip c.text = [] then [] else [.text (calm (Text.strip c.text))]) ++
        scriptContents cs := by
  unfold scriptContents
  rw [List.filter_cons_of_pos (by simpa using hk), List.map_cons, List.filterMap_cons]
  by_cases hs : Text.strip c.text = [] <;> simp [hs]

/-- The literals of a script are read as its texts, whose quotes have become apostrophes. -/
theorem reads_scriptTexts {n : Node} (h : ∀ c ∈ n.children, c.kind = .text → '\\' ∉ c.text) :
    List.Forall₂ Reads ((scriptTexts n).filter (· ≠ [])) (scriptContents n.children) := by
  unfold scriptTexts
  generalize n.children = children at h ⊢
  induction children with
  | nil => exact .nil
  | cons c cs ih =>
    have ih := ih fun d hd => h d (List.mem_cons_of_mem c hd)
    by_cases hk : c.kind = .text
    · have hc : '\\' ∉ Text.strip c.text := by
        intro m
        apply h c List.mem_cons_self hk
        exact Text.mem_of_mem_strip m
      rw [scriptContents_cons_of_text hk, List.filter_cons_of_pos (by simpa using hk),
        List.map_cons, ← List.singleton_append, List.filter_append]
      exact List.rel_append (reads_textCode (readLiteral_calm hc)) ih
    · unfold scriptContents at ih ⊢
      rwa [List.filter_cons_of_neg (by simpa using hk)]

theorem reads_layouts {o : Options} {level : Int} {ns : List Node} {codes : List Text}
    (hn : ∀ n ∈ ns, isLegible n → ∀ code, layout o level n = .ok code →
      List.Forall₂ Reads ([code].filter (· ≠ [])) (contents n))
    (hl : areLegible ns) (h : layouts o level ns = .ok codes) :
    List.Forall₂ Reads (codes.filter (· ≠ [])) (contentsAll ns) := by
  induction ns generalizing codes with
  | nil =>
    rw [← Except.ok.inj h]
    exact .nil
  | cons n ns ih =>
    rw [areLegible, Bool.and_eq_true] at hl
    obtain ⟨code, hc, h⟩ := Outcome.exists_of_bind_ok h
    obtain ⟨more, hm, h⟩ := Outcome.exists_of_bind_ok h
    rw [← Except.ok.inj h, ← List.singleton_append, List.filter_append, contentsAll]
    have hfirst := hn n List.mem_cons_self hl.1 code hc
    exact List.rel_append hfirst (ih (fun m hm => hn m (List.mem_cons_of_mem n hm)) hl.2 hm)

/-- The code of a legible tree is read as its content, or it is empty like its content. -/
theorem reads_layout (o : Options) (n : Node) : ∀ level, isLegible n → ∀ code,
    layout o level n = .ok code → List.Forall₂ Reads ([code].filter (· ≠ [])) (contents n) := by
  induction n using Node.induction with
  | step n ih =>
    intro level hl code h
    obtain ⟨kind, name, attrs, children, text⟩ := n
    cases kind with
    | text =>
      rw [← Except.ok.inj h]
      exact reads_textCode (readLiteral_escape (Text.strip text))
    | script =>
      rw [isLegible, Bool.and_eq_true] at hl
      have hattrs := List.all_eq_true.1 hl.1
      have htexts : ∀ c ∈ children, c.kind = .text → '\\' ∉ c.text := by
        intro c hc hk
        simpa [hk] using List.all_eq_true.1 hl.2 c hc
      obtain ⟨body, hb, h⟩ := Outcome.exists_of_bind_ok h
      rw [← childList_filter] at hb
      have hname : ' ' ∉ "script".toList := by decide
      have hread := reads_childList hname hattrs
        (reads_scriptTexts (n := ⟨.script, name, attrs, children, text⟩) htexts) hb
      rw [← Except.ok.inj h]
      simpa [contents] using hread
    | element =>
      rw [isLegible, Bool.and_eq_true, Bool.and_eq_true] at hl
      obtain ⟨⟨hname, hattrs⟩, hchildren⟩ := hl
      have hname : ' ' ∉ name := by
        intro m
        simpa using List.all_eq_true.1 hname _ m
      have hattrs := List.all_eq_true.1 hattrs
      by_cases hv : isVoid name
      · rw [layout, if_pos hv] at h
        rw [← Except.ok.inj h]
        simpa [contents, hv, headCode] using reads_void hname hattrs
      · rw [layout, if_neg hv] at h
        obtain ⟨codes, hc, h⟩ := Outcome.exists_of_bind_ok h
        obtain ⟨body, hb, h⟩ := Outcome.exists_of_bind_ok h
        have hrow := reads_layouts (fun c hc => ih c hc (level + 1)) (by simpa [hv] using hchildren) hc
        rw [← childList_filter] at hb
        rw [← Except.ok.inj h]
        simpa [contents, hv] using reads_childList hname hattrs hrow hb
    | document => simp [← Except.ok.inj h, contents]
    | other => simp [← Except.ok.inj h, contents]
    | unknown label => simp [← Except.ok.inj h, contents]

/-! ### Whole texts -/

theorem readLines_intercalate {codes : List Text} {cs : List Content}
    (h : List.Forall₂ Reads codes cs) (hne : codes ≠ []) {fuel : Nat}
    (hf : (['\n'].intercalate codes).length < fuel) :
    readLines fuel (['\n'].intercalate codes) = some cs := by
  induction h generalizing fuel with
  | nil => exact absurd rfl hne
  | @cons code c codes cs hc hcs ih =>
    obtain ⟨fuel, rfl⟩ : ∃ k, fuel = k + 1 := ⟨fuel - 1, by omega⟩
    cases hcs with
    | nil =>
      have hread := hc.2 fuel []
      rw [List.append_nil] at hread
      rw [List.intercalate_singleton] at hf
      rw [List.intercalate_singleton, readLines, hread (by omega) (by simp)]
      rfl
    | @cons next d codes cs hd hds =>
      have hs : ['\n'].intercalate (code :: next :: codes) =
          code ++ '\n' :: ['\n'].intercalate (next :: codes) := by simp
      rw [hs, List.length_append, List.length_cons] at hf
      rw [hs, readLines, hc.2 fuel _ (by omega) (by simp)]
      change (do return c :: (← readLines fuel _)) = _
      rw [ih (by simp) (by omega)]
      rfl

/-- Codes that can be read, one below the other, are read to the last one. -/
theorem read_intercalate {codes : List Text} {cs : List Content} (h : List.Forall₂ Reads codes cs) :
    read (['\n'].intercalate codes) = some cs := by
  cases h with
  | nil => rfl
  | @cons code c codes cs hc hcs =>
    have hcode := List.length_pos_iff.1 hc.length_pos
    have hne : ['\n'].intercalate (code :: codes) ≠ [] := by cases codes <;> simp [hcode]
    unfold read
    rw [if_neg hne]
    exact readLines_intercalate (.cons hc hcs) (by simp) (by omega)

/-- The code of a legible tree reads back as its content, and so does the code of a document of legible
trees: nothing that a tree carries can be taken for the notation around it. -/
theorem read_emitNode_and_emitDocument (o : Options) :
    (∀ (level : Int) (n : Node) (code : Text), isLegible n → emitNode o level n = .ok code →
      read code = some (contents n)) ∧
    ∀ (doc : Node) (code : Text), areLegible doc.children → emitDocument o doc = .ok code →
      read code = some (contentsAll doc.children) := by
  constructor
  · intro level n code hl h
    rw [emitNode_eq_layout] at h
    have hread := read_intercalate (reads_layout o n level hl code h)
    by_cases hc : code = []
    · rw [hc] at hread ⊢
      exact hread
    · rw [List.filter_cons_of_pos (by simpa using hc)] at hread
      simpa using hread
  · intro doc code hl h
    obtain ⟨codes, hc, h⟩ := Outcome.exists_of_bind_ok h
    have hemit : emitNode o 0 = layout o 0 := funext fun n => emitNode_eq_layout o 0 n
    rw [hemit, ← layouts_eq_mapM] at hc
    rw [← Except.ok.inj h]
    exact read_intercalate (reads_layouts (fun n _ => reads_layout o n 0) hl hc)

def codeLike : Node :=
  .element "text".toList [("a-b".toList, "\" ] [".toList), ("open".toList, "\\".toList)]
    [.ofText "_p [] [\n".toList, .element "br".toList,
      .element "script".toList [] [.ofText "\"\n]".toList]]

def codeLikeCode : Text :=
  "_text [ _aB_ \"\\\" ] [\"; _open_ ] [\n  _text \"_p [] [\"\n  _br []\n".toList ++
    "  _script [] [\n    _text \"'\n]\"\n  ]\n]".toList

theorem read_codeLikeCode :
    isLegible codeLike ∧ emitNode { indentSize := 2 } 0 codeLike = .ok codeLikeCode ∧
      read codeLikeCode = some (contents codeLike) ∧
      emitDocument { indentSize := 2 } (.document [codeLike]) = .ok codeLikeCode ∧
      read codeLikeCode = some (contentsAll [codeLike]) := by
  have hl : isLegible codeLike := by decide
  have hn : emitNode { indentSize := 2 } 0 codeLike = .ok codeLikeCode := by
    rw [emitNode_eq_layout]
    decide
  have hd : emitDocument { indentSize := 2 } (.document [codeLike]) = .ok codeLikeCode := by
    change (do let codes ← (do return (← emitNode _ 0 codeLike) :: []); _) = _
    rw [hn]
    rfl
  have hread := read_emitNode_and_emitDocument { indentSize := 2 }
  exact ⟨hl, hn, hread.1 0 codeLike _ hl hn, hd, hread.2 (.document [codeLike]) _ (by decide) hd⟩

end MarkupCode.Code
