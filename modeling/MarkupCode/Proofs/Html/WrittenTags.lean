import MarkupCode.Html.Lexer
import MarkupCode.Html.Written
import MarkupCode.Proofs.Text.Scan

/-!
# Reading written tags

A written start tag is read as the tag with its name and attributes, a written end tag as the end tag of
its name. A value is read back from its written form because only the two references that writing puts
there stand in it.
-/

namespace MarkupCode.Html

open Code

/-! ### Letters of names -/

def smallLetters : Text := "abcdefghijklmnopqrstuvwxyz".toList

theorem mem_smallLetters {c : Char} (h : isSmallLetter c = true) : c ∈ smallLetters := by
  have hall : ∀ k < 26, Char.ofNat (97 + k) ∈ smallLetters := by decide
  unfold isSmallLetter at h
  simp only [Bool.and_eq_true, decide_eq_true_eq, Char.le_def, UInt32.le_iff_toNat_le] at h
  have hlow : 97 ≤ c.toNat := h.1
  have hhigh : c.toNat ≤ 122 := h.2
  have hk := hall (c.toNat - 97) (by omega)
  rwa [Nat.add_sub_cancel' hlow, Char.ofNat_toNat] at hk

/-- A test that all small letters pass. -/
theorem of_isSmallLetter {p : Char → Bool} (hp : smallLetters.all p = true) {c : Char}
    (h : isSmallLetter c = true) : p c = true :=
  List.all_eq_true.1 hp c (mem_smallLetters h)

/-- A test that no small letter passes. -/
theorem not_of_isSmallLetter {p : Char → Bool} (hp : (smallLetters.any p) = false) {c : Char}
    (h : isSmallLetter c = true) : p c = false := by
  have := List.any_eq_false.1 hp c (mem_smallLetters h)
  simpa using this

/-- Small letters and hyphens are in lower case. -/
theorem lower_of_small {name : Text} (h : ∀ c ∈ name, c ∈ '-' :: smallLetters) :
    Text.lower name = name := by
  have hall : ('-' :: smallLetters).all (fun c => c.toNat < 128 && c.toLower = c) = true := by decide
  have hlower : ∀ c ∈ name, c.toNat < 128 ∧ c.toLower = c := by
    intro c hc
    simpa using List.all_eq_true.1 hall c (h c hc)
  rw [Text.lower_of_ascii]
  · rw [List.map_congr_left fun c hc => (hlower c hc).2]
    exact List.map_id' name
  · intro c hc
    exact (hlower c hc).1

structure PlainName (name : Text) : Prop where
  letters : ∀ c ∈ name, isSmallLetter c = true
  ne_nil : name ≠ []
  notVerbatim : name ∉ verbatimElements
  void : isVoid name = true ∨ name ∉ emptyElements

theorem PlainName.of_isPlainName {name : Text} (h : isPlainName name = true) : PlainName name := by
  simp only [isPlainName, Bool.and_eq_true, Bool.or_eq_true, decide_eq_true_eq, List.all_eq_true] at h
  obtain ⟨⟨⟨⟨hne, hletters⟩, hscript⟩, hstyle⟩, hvoid⟩ := h
  refine ⟨hletters, hne, ?_, hvoid⟩
  simp [verbatimElements] at hscript hstyle ⊢
  exact ⟨hscript, hstyle⟩

theorem PlainName.lower {name : Text} (h : PlainName name) : Text.lower name = name :=
  lower_of_small fun c hc => List.mem_cons_of_mem _ (mem_smallLetters (h.letters c hc))

/-! ### Values -/

theorem cut?_append {c : Char} {s : Text} (h : c ∉ s) (rest : Text) :
    cut? c (s ++ c :: rest) = some (s, rest) := by
  have hs : ∀ d ∈ s, decide (d ≠ c) = true := by
    intro d hd
    apply decide_eq_true
    rintro rfl
    exact h hd
  have hr : ∀ d ∈ (c :: rest).head?, decide (d ≠ c) = false := by simp
  rw [cut?, Text.dropWhile_append_stop hs hr, Text.takeWhile_append_stop hs hr]

theorem quote_notMem_escaped (v : Text) : '"' ∉ v.flatMap valueEscape := by
  intro h
  obtain ⟨c, -, hc⟩ := List.mem_flatMap.1 h
  unfold valueEscape at hc
  split at hc
  · revert hc
    decide
  split at hc
  · revert hc
    decide
  · next hne => exact hne (List.mem_singleton.1 hc).symm

theorem decodeValue_of_reference (c : Char) (name rest : Text)
    (hr : valueReference? (name ++ ';' :: rest) = some (.named name true, rest))
    (hv : Reference.namedInValue name true = [c]) :
    decodeValue ('&' :: name ++ ';' :: rest) = (decodeValue rest).map (c :: ·) := by
  rw [List.cons_append, decodeValue, if_pos rfl]
  split
  · next r rest' he =>
    cases hr.symm.trans he
    change (do let t ← Except.ok (Reference.namedInValue name true); _) = _
    rw [hv]
    cases decodeValue rest <;> rfl
  · next he => cases hr.symm.trans he

theorem decodeValue_cons {c : Char} (hc : c ≠ '&') (rest : Text) :
    decodeValue (c :: rest) = (decodeValue rest).map (c :: ·) := by
  rw [decodeValue, if_neg hc]

/-- A value is read back from its written form. -/
theorem decodeValue_escaped (v : Text) : decodeValue (v.flatMap valueEscape) = .ok v := by
  induction v with
  | nil => rw [List.flatMap_nil, decodeValue]
  | cons c v ih =>
    rw [List.flatMap_cons]
    by_cases hamp : c = '&'
    · subst hamp
      have h := decodeValue_of_reference '&' "amp".toList (v.flatMap valueEscape) rfl
        (by decide +kernel)
      rw [ih] at h
      exact h
    by_cases hquot : c = '"'
    · subst hquot
      have h := decodeValue_of_reference '"' "quot".toList (v.flatMap valueEscape) rfl
        (by decide +kernel)
      rw [ih] at h
      exact h
    rw [valueEscape, if_neg hamp, if_neg hquot, List.singleton_append, decodeValue_cons hamp, ih]
    rfl

/-! ### Attributes -/

structure PlainAttribute (name : Text) : Prop where
  head : ∃ c r, name = c :: r ∧ isSmallLetter c = true
  chars : ∀ c ∈ name, isSmallLetter c = true ∨ c = '-'

theorem PlainAttribute.of_isPlainAttribute {name : Text} (h : isPlainAttribute name = true) :
    PlainAttribute name := by
  simp only [isPlainAttribute, Bool.and_eq_true, List.all_eq_true, Bool.or_eq_true,
    decide_eq_true_eq] at h
  obtain ⟨hhead, hchars⟩ := h
  cases name with
  | nil => cases hhead
  | cons c r => exact ⟨⟨c, r, rfl, hhead⟩, hchars⟩

theorem PlainAttribute.mem {name : Text} (h : PlainAttribute name) :
    ∀ c ∈ name, c ∈ '-' :: smallLetters := by
  intro c hc
  rcases h.chars c hc with hs | rfl
  · exact List.mem_cons_of_mem _ (mem_smallLetters hs)
  · exact List.mem_cons_self

theorem PlainAttribute.lower {name : Text} (h : PlainAttribute name) : Text.lower name = name :=
  lower_of_small h.mem

theorem attributeValue?_written {v : Text} (hv : '"' ∉ v) (rest : Text) :
    attributeValue? ('=' :: '"' :: v ++ '"' :: rest) = some (v, true, rest) := by
  have hcut := cut?_append hv rest
  unfold attributeValue?
  rw [List.cons_append, List.cons_append]
  have hleft : Text.stripLeft ('=' :: '"' :: (v ++ '"' :: rest)) = '=' :: '"' :: (v ++ '"' :: rest) :=
    rfl
  have hvalue : Text.stripLeft ('"' :: (v ++ '"' :: rest)) = '"' :: (v ++ '"' :: rest) := rfl
  have hdrop : ('=' :: '"' :: (v ++ '"' :: rest)).dropWhile (· = '=') = '"' :: (v ++ '"' :: rest) :=
    rfl
  have htake : ('=' :: '"' :: (v ++ '"' :: rest)).takeWhile (· = '=') = ['='] := rfl
  simp only [hleft, hdrop, htake, hvalue, hcut]
  rfl

/-- A written attribute, read from behind the space before it. -/
theorem attribute?_written {name v : Text} (hn : PlainAttribute name) (hv : '"' ∉ v) (rest : Text) :
    attribute? true (name ++ '=' :: '"' :: v ++ '"' :: rest) =
      some ((name, v), true, skipGap rest) := by
  obtain ⟨c, r, rfl, hc⟩ := hn.head
  have hblank : Text.isBlank c = false := not_of_isSmallLetter (by decide) hc
  have hstop : (c ∈ ['/', '>']) = False := by
    have := not_of_isSmallLetter (p := fun c => c ∈ ['/', '>']) (by decide) hc
    exact eq_false (of_decide_eq_false this)
  have hall : ('-' :: smallLetters).all isAttributeNameChar = true := by decide
  have hchars : ∀ d ∈ r, isAttributeNameChar d = true := by
    intro d hd
    exact List.all_eq_true.1 hall d (hn.mem d (List.mem_cons_of_mem c hd))
  have hequals : ∀ d ∈ ('=' :: '"' :: v ++ '"' :: rest).head?, isAttributeNameChar d = false := by
    rintro d ⟨⟩
    decide
  rw [List.append_assoc, List.cons_append]
  unfold attribute?
  simp only [hblank, hstop, Bool.not_true, Bool.false_or, decide_false, Bool.false_eq_true, if_false]
  rw [Text.takeWhile_append_stop hchars hequals, Text.dropWhile_append_stop hchars hequals,
    attributeValue?_written hv, hn.lower]
  rfl

theorem skipGap_cons_of_small {c : Char} (h : isSmallLetter c = true) (rest : Text) :
    skipGap (c :: rest) = c :: rest := by
  have hblank : Text.isBlank c = false := not_of_isSmallLetter (by decide) h
  have hslash : c ≠ '/' := by
    rintro rfl
    cases h
  rw [skipGap, beginsGap, hblank]
  simp [hslash]

theorem skipGap_space (rest : Text) : skipGap (' ' :: rest) = skipGap rest := by
  rw [skipGap, if_pos (by rfl)]

theorem skipGap_written {name : Text} (hn : PlainAttribute name) (v rest : Text) :
    skipGap (writtenAttribute (name, v) ++ rest) =
      name ++ '=' :: '"' :: v.flatMap valueEscape ++ '"' :: rest := by
  obtain ⟨c, r, rfl, hc⟩ := hn.head
  simp only [writtenAttribute, List.cons_append, List.append_assoc, List.nil_append]
  rw [skipGap_space, skipGap_cons_of_small hc]

theorem skipGap_close (rest : Text) : skipGap ('>' :: rest) = '>' :: rest := rfl

/-- The attributes of a written start tag, up to its end. -/
theorem attributes_written {attrs : Attributes} (ha : ∀ a ∈ attrs, PlainAttribute a.1) {ready : Bool}
    (hready : attrs ≠ [] → ready = true) (rest : Text) :
    attributes ready (skipGap (attrs.flatMap writtenAttribute ++ '>' :: rest)) =
      (attrs.map fun a => (a.1, a.2.flatMap valueEscape), '>' :: rest) := by
  induction attrs generalizing ready with
  | nil =>
    have hnone : attribute? ready ('>' :: rest) = none := by
      cases ready <;> rfl
    rw [List.flatMap_nil, List.nil_append, skipGap_close, attributes, hnone]
    rfl
  | cons a attrs ih =>
    obtain ⟨hn, hattrs⟩ := List.forall_mem_cons.1 ha
    have hfirst := attribute?_written hn (quote_notMem_escaped a.2)
      (attrs.flatMap writtenAttribute ++ '>' :: rest)
    rw [List.flatMap_cons, List.append_assoc, skipGap_written hn, hready (List.cons_ne_nil a attrs),
      attributes, hfirst]
    dsimp only
    rw [ih hattrs fun _ => rfl]
    rfl

theorem decodeAttributes_escaped (attrs : Attributes) :
    decodeAttributes (attrs.map fun a => (a.1, a.2.flatMap valueEscape)) = .ok attrs := by
  unfold decodeAttributes
  induction attrs with
  | nil => rfl
  | cons a attrs ih =>
    rw [List.map_cons, List.mapM_cons, ih, decodeValue_escaped]
    rfl

/-! ### Tags -/

theorem arePlainAttributes_forall {attrs : Attributes} (h : arePlainAttributes attrs = true) :
    ∀ a ∈ attrs, PlainAttribute a.1 := by
  unfold arePlainAttributes at h
  intro a ha
  exact .of_isPlainAttribute (List.all_eq_true.1 (Bool.and_eq_true_iff.1 h).1 a ha)

/-- What stands behind the name of a written start tag. -/
theorem head?_written_attributes (attrs : Attributes) (rest : Text) :
    ∀ c ∈ (attrs.flatMap writtenAttribute ++ '>' :: rest).head?, c = ' ' ∨ c = '>' := by
  cases attrs with
  | nil =>
    rintro c ⟨⟩
    exact .inr rfl
  | cons a attrs =>
    rintro c ⟨⟩
    exact .inl rfl

theorem gap_written {attrs : Attributes} (ha : ∀ a ∈ attrs, PlainAttribute a.1) (rest : Text)
    {isGap : Char → Bool} (hg : isGap = fun c => c = '/' || Text.isBlank c) :
    (attrs.flatMap writtenAttribute ++ '>' :: rest).takeWhile isGap =
        (if attrs = [] then [] else [' ']) ∧
      (attrs.flatMap writtenAttribute ++ '>' :: rest).dropWhile isGap =
        skipGap (attrs.flatMap writtenAttribute ++ '>' :: rest) := by
  subst hg
  cases attrs with
  | nil => exact ⟨rfl, rfl⟩
  | cons a attrs =>
    obtain ⟨name, v⟩ := a
    have hn := (List.forall_mem_cons.1 ha).1
    obtain ⟨c, r, rfl, hc⟩ := hn.head
    have hnot : (decide (c = '/') || Text.isBlank c) = false :=
      not_of_isSmallLetter (p := fun c => decide (c = '/') || Text.isBlank c) (by decide) hc
    rw [List.flatMap_cons, List.append_assoc, skipGap_written hn]
    simp only [writtenAttribute, List.cons_append, List.append_assoc, List.nil_append]
    rw [List.takeWhile_cons_of_pos rfl, List.dropWhile_cons_of_pos rfl,
      List.takeWhile_cons_of_neg (by simpa using hnot), List.dropWhile_cons_of_neg (by simpa using hnot)]
    exact ⟨rfl, rfl⟩

theorem startTag_written {name : Text} {attrs : Attributes} (hn : PlainName name)
    (ha : ∀ a ∈ attrs, PlainAttribute a.1) (rest : Text) :
    startTag none (name ++ (attrs.flatMap writtenAttribute ++ '>' :: rest)) =
      .ok (some ⟨[.startTag name attrs], none, rest⟩) := by
  have hchars : ∀ c ∈ name, isTagNameChar c = true := by
    intro c hc
    apply of_isSmallLetter (by decide)
    exact hn.letters c hc
  have hstop : ∀ c ∈ (attrs.flatMap writtenAttribute ++ '>' :: rest).head?,
      isTagNameChar c = false := by
    intro c hc
    rcases head?_written_attributes attrs rest c hc with rfl | rfl <;> decide
  obtain ⟨htake, hdrop⟩ := gap_written ha rest rfl
  unfold startTag
  rw [Text.takeWhile_append_stop hchars hstop, Text.dropWhile_append_stop hchars hstop, hn.lower]
  dsimp only
  rw [htake, hdrop, attributes_written ha]
  · have hslashed : (decide (attrs.map (fun a => (a.1, a.2.flatMap valueEscape)) = []) &&
        decide ((if attrs = [] then [] else [' ']).getLast? = some '/')) = false := by
      by_cases he : attrs = []
      · simp [he]
      · simp [he]
    dsimp only
    rw [hslashed]
    change (do let attrs ← decodeAttributes _; _) = _
    rw [decodeAttributes_escaped, if_neg hn.notVerbatim]
    rfl
  · intro hne
    rw [if_neg hne]
    rfl

theorem endName?_written {name : Text} (hn : PlainName name) : endName? name = some name := by
  obtain ⟨c, r, rfl⟩ := List.exists_cons_of_ne_nil hn.ne_nil
  obtain ⟨hc, hr⟩ := List.forall_mem_cons.1 hn.letters
  have hblank : Text.isBlank c = false := not_of_isSmallLetter (by decide) hc
  have hletter : Text.isAsciiLetter c = true := of_isSmallLetter (by decide) hc
  have hleft : Text.stripLeft (c :: r) = c :: r := by
    rw [Text.stripLeft, List.dropWhile_cons_of_neg (by simp [hblank])]
  have hchars : ∀ d ∈ r, (decide (d ∈ ['-', '.', ':', '_']) || Text.isAsciiLetter d ||
      Text.isAsciiDigit d) = true := by
    intro d hd
    apply of_isSmallLetter (p := fun d => decide (d ∈ ['-', '.', ':', '_']) || Text.isAsciiLetter d ||
      Text.isAsciiDigit d) (by decide)
    exact hr d hd
  have htake : (r ++ []).takeWhile _ = r := Text.takeWhile_append_stop hchars (by simp)
  have hdrop : (r ++ []).dropWhile _ = [] := Text.dropWhile_append_stop hchars (by simp)
  rw [List.append_nil] at htake hdrop
  unfold endName?
  rw [hleft]
  dsimp only
  rw [htake, hdrop, if_pos ⟨hletter, rfl⟩, hn.lower]

theorem endTag_written {name : Text} (hn : PlainName name) (rest : Text) :
    endTag none (name ++ '>' :: rest) = some ⟨[.endTag name], none, rest⟩ := by
  have hclose : '>' ∉ name := by
    intro h
    cases hn.letters '>' h
  unfold endTag
  rw [cut?_append hclose]
  simp only [Option.bind_eq_bind, Option.bind_some, endName?_written hn]
  rfl

end MarkupCode.Html
