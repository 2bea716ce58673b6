import MarkupCode.Proofs.Html.WrittenTags

/-!
# Tokens of a written tree

`tokensOf` lists the tokens that the markup of a tree is read as: a text gives its runs of plain
characters and, one by one, the characters that are written as references; an element gives its start
tag, the tokens of its children and its end tag. The first pass reads all of it, whatever follows.
-/

namespace MarkupCode.Html

open Code

def isReferred (c : Char) : Bool := c ∈ ['&', '<', '>']

def tokensOfText (run : Text) : Text → List Token
  | [] => textTokens run
  | c :: s =>
    if isReferred c then textTokens run ++ .text [c] :: tokensOfText [] s
    else tokensOfText (run ++ [c]) s

mutual
def tokensOf : Node → List Token
  | ⟨kind, name, attrs, children, text⟩ =>
    match kind with
    | .text => tokensOfText [] text
    | .element =>
      .startTag name attrs ::
        (if isVoid name then [] else tokensOfAll children ++ [.endTag name])
    | _ => tokensOfAll children

def tokensOfAll : List Node → List Token
  | [] => []
  | c :: cs => tokensOf c ++ tokensOfAll cs
end

def Piece.behind (ts : List Token) (p : Piece) : Piece := { p with tokens := ts ++ p.tokens }

theorem map_behind_nil (x : Except PageError Piece) : x.map (Piece.behind []) = x := by
  cases x <;> rfl

theorem map_behind_behind (ts us : List Token) (x : Except PageError Piece) :
    (x.map (Piece.behind us)).map (Piece.behind ts) = x.map (Piece.behind (ts ++ us)) := by
  cases x with
  | error e => rfl
  | ok p => simp [Except.map, Piece.behind]

/-! ### Texts -/

def isPlainChar (c : Char) : Bool := c ≠ '<' && c ≠ '&'

theorem interesting_append (run : Text) {rest : Text} (hrun : ∀ c ∈ run, isPlainChar c = true)
    (hrest : ∀ c ∈ rest.head?, isPlainChar c = false) :
    interesting none (run ++ rest) = (run, rest) := by
  unfold interesting
  dsimp only
  induction run with
  | nil =>
    cases rest with
    | nil => rfl
    | cons c rest =>
      have hc := hrest c rfl
      rw [List.nil_append, breakAt, if_pos]
      by_cases h : c = '<' <;> simp_all [isPlainChar]
  | cons c run ih =>
    obtain ⟨hc, hrun⟩ := List.forall_mem_cons.1 hrun
    rw [List.cons_append, breakAt, if_neg, ih hrun]
    simpa [isPlainChar] using hc

/-- A run of plain characters is a text of its own in front of whatever ends it. -/
theorem pass_run {run rest : Text} (hrun : ∀ c ∈ run, isPlainChar c = true)
    (hrest : ∀ c ∈ rest.head?, isPlainChar c = false) (final : Bool) :
    pass final none (run ++ rest) = (pass final none rest).map (.behind (textTokens run)) := by
  by_cases hne : run = []
  · rw [hne]
    exact (map_behind_nil _).symm
  have hstep : step final none (run ++ rest) = (scan final none rest).map (·.after run) := by
    rw [step, interesting_append run hrun hrest]
    exact if_neg (by simp)
  have hboth : run ++ rest ≠ [] := by
    intro e
    apply hne
    exact (List.append_eq_nil_iff.1 e).1
  rw [pass_of_ne_nil hboth, hstep]
  cases rest with
  | nil =>
    rw [pass_nil]
    change (pass final none []).map _ = _
    rw [pass_nil]
    simp [Except.map, Piece.behind, Piece.after]
  | cons c rest =>
    have hnone : interesting none (c :: rest) = ([], c :: rest) :=
      interesting_append [] (by simp) hrest
    have hstep' : step final none (c :: rest) = (scan final none (c :: rest)).map (·.after []) := by
      rw [step, hnone]
      exact if_neg (by simp)
    rw [pass_of_ne_nil (List.cons_ne_nil c rest), hstep']
    cases scan final none (c :: rest) with
    | error e => rfl
    | ok q =>
      cases q with
      | stop p => rfl
      | advance p =>
        change (pass final p.verbatim p.rest).map (Piece.behind (textTokens run ++ p.tokens)) =
          ((pass final p.verbatim p.rest).map (Piece.behind p.tokens)).map _
        rw [map_behind_behind]

theorem step_reference (name : Text) {c : Char}
    (hname : name.all (fun d => decide (d ∈ ['-', '.']) || Text.isAsciiLetter d ||
      Text.isAsciiDigit d) = true)
    (hletter : name.head?.any Text.isAsciiLetter = true) (hc : namedText? name = some [c])
    (final : Bool) (rest : Text) :
    step final none ('&' :: name ++ ';' :: rest) = .ok (.advance ⟨[.text [c]], none, rest⟩) := by
  obtain ⟨l, r, rfl⟩ : ∃ l r, name = l :: r := by
    cases name with
    | nil => cases hletter
    | cons l r => exact ⟨l, r, rfl⟩
  have hsemicolon : ∀ d ∈ (';' :: rest).head?,
      (decide (d ∈ ['-', '.']) || Text.isAsciiLetter d || Text.isAsciiDigit d) = false := by
    rintro d ⟨⟩
    decide
  have hstart : interesting none ('&' :: (l :: r ++ ';' :: rest)) = ([], '&' :: (l :: r ++ ';' :: rest)) :=
    interesting_append [] (by simp) (by rintro d ⟨⟩; rfl)
  have hreference : reference final none (l :: r ++ ';' :: rest) =
      namedReference final none (l :: r ++ ';' :: rest) := by
    have hl : Text.isAsciiLetter l = true := hletter
    have hhash : l ≠ '#' := by
      rintro rfl
      cases hl
    rw [List.cons_append]
    unfold reference
    split
    · next h => cases h
    · next h => exact absurd (List.cons.inj h).1 hhash
    · next h =>
      cases h
      rw [if_pos hl]
  have hnamed : namedReference final none (l :: r ++ ';' :: rest) =
      .ok (.advance ⟨[.text [c]], none, rest⟩) := by
    unfold namedReference
    dsimp only
    have hchars := List.all_eq_true.1 hname
    rw [Text.takeWhile_append_stop hchars hsemicolon, Text.dropWhile_append_stop hchars hsemicolon,
      if_pos (List.cons_ne_nil _ _), Reference.inText, hc]
    rfl
  rw [List.cons_append, step, hstart]
  change (if _ then _ else (reference final none (l :: r ++ ';' :: rest)).map _) = _
  rw [if_neg (by simp), hreference, hnamed]
  rfl

theorem pass_escaped {c : Char} (h : isReferred c = true) (final : Bool) (rest : Text) :
    pass final none (textEscape c ++ rest) = (pass final none rest).map (.behind [.text [c]]) := by
  have hread {name : Text} (hs : step final none ('&' :: name ++ ';' :: rest) =
      .ok (.advance ⟨[.text [c]], none, rest⟩)) : pass final none ('&' :: name ++ ';' :: rest) =
        (pass final none rest).map (.behind [.text [c]]) :=
    pass_of_advance (by simp) hs
  simp only [isReferred, List.mem_cons, List.not_mem_nil, or_false, decide_eq_true_eq] at h
  rcases h with rfl | rfl | rfl
  · exact hread (step_reference "amp".toList (by decide) rfl (by decide +kernel) final rest)
  · exact hread (step_reference "lt".toList (by decide) rfl (by decide +kernel) final rest)
  · exact hread (step_reference "gt".toList (by decide) rfl (by decide +kernel) final rest)

/-- Markup can begin where a text may end: at the end of the page or at an angle bracket. -/
def EndsText (rest : Text) : Prop := ∀ c ∈ rest.head?, c = '<'

theorem EndsText.not_isPlainChar {rest : Text} (h : EndsText rest) :
    ∀ c ∈ rest.head?, isPlainChar c = false := by
  intro c hc
  rw [h c hc]
  rfl

theorem textEscape_of_not_isReferred {c : Char} (h : isReferred c = false) : textEscape c = [c] := by
  simp only [isReferred, List.mem_cons, List.not_mem_nil, or_false, not_or, decide_eq_false_iff_not] at h
  rw [textEscape, if_neg h.1, if_neg h.2.1, if_neg h.2.2]

theorem isPlainChar_of_not_isReferred {c : Char} (h : isReferred c = false) :
    isPlainChar c = true := by
  simp only [isReferred, List.mem_cons, List.not_mem_nil, or_false, not_or, decide_eq_false_iff_not] at h
  simp [isPlainChar, h.1, h.2.1]

theorem pass_text (run : Text) {rest : Text} (hrun : ∀ c ∈ run, isPlainChar c = true) (hrest : EndsText rest)
    (final : Bool) (s : Text) :
    pass final none (run ++ (s.flatMap textEscape ++ rest)) =
      (pass final none rest).map (.behind (tokensOfText run s)) := by
  induction s generalizing run with
  | nil => exact pass_run hrun hrest.not_isPlainChar final
  | cons c s ih =>
    rw [List.flatMap_cons, List.append_assoc, tokensOfText]
    by_cases hc : isReferred c = true
    · have hstop : ∀ d ∈ (textEscape c ++ (s.flatMap textEscape ++ rest)).head?,
          isPlainChar d = false := by
        simp only [isReferred, List.mem_cons, List.not_mem_nil, or_false, decide_eq_true_eq] at hc
        rcases hc with rfl | rfl | rfl <;> (rintro d ⟨⟩; rfl)
      have hs := ih [] (by simp)
      rw [List.nil_append] at hs
      rw [pass_run hrun hstop, pass_escaped hc, hs, map_behind_behind, map_behind_behind, if_pos hc,
        List.append_assoc, List.singleton_append]
    · have hc : isReferred c = false := Bool.not_eq_true _ ▸ hc
      have hlonger : ∀ d ∈ run ++ [c], isPlainChar d = true := by
        intro d hd
        rcases List.mem_append.1 hd with hd | hd
        · exact hrun d hd
        · rw [List.mem_singleton.1 hd]
          exact isPlainChar_of_not_isReferred hc
      rw [if_neg (by simp [hc]), textEscape_of_not_isReferred hc, ← ih _ hlonger, List.append_assoc]

/-! ### Trees -/

theorem pass_of_construct {s : Text} {p : Piece} (h : construct none s = .ok (some p)) (final : Bool) :
    pass final none ('<' :: s) = (pass final p.verbatim p.rest).map (.behind p.tokens) := by
  have hstart : interesting none ('<' :: s) = ([], '<' :: s) :=
    interesting_append [] (by simp) (by rintro d ⟨⟩; rfl)
  apply pass_of_advance (List.cons_ne_nil _ _)
  rw [step, hstart]
  change (if _ then _ else (markup final none s).map _) = _
  rw [if_neg (by simp), markup, h]
  rfl

theorem construct_of_letter {c : Char} (hc : isSmallLetter c = true) (s : Text) :
    construct none (c :: s) = startTag none (c :: s) := by
  have hletter : Text.isAsciiLetter c = true := of_isSmallLetter (by decide) hc
  unfold construct
  split
  · next h =>
    rw [(List.cons.inj h).1] at hc
    cases hc
  · next h =>
    rw [(List.cons.inj h).1] at hc
    cases hc
  · next h =>
    rw [(List.cons.inj h).1] at hc
    cases hc
  · next h =>
    cases h
    exact if_pos hletter
  · next h => cases h

theorem pass_writtenStart {name : Text} {attrs : Attributes} (hn : PlainName name)
    (ha : ∀ a ∈ attrs, PlainAttribute a.1) (final : Bool) (rest : Text) :
    pass final none (writtenStart name attrs ++ rest) =
      (pass final none rest).map (.behind [.startTag name attrs]) := by
  have hstart := startTag_written hn ha rest
  obtain ⟨c, r, rfl⟩ := List.exists_cons_of_ne_nil hn.ne_nil
  rw [List.cons_append, ← construct_of_letter (hn.letters c List.mem_cons_self)] at hstart
  have hpass := pass_of_construct hstart final
  simpa [writtenStart] using hpass

theorem pass_writtenEnd {name : Text} (hn : PlainName name) (final : Bool) (rest : Text) :
    pass final none (writtenEnd name ++ rest) =
      (pass final none rest).map (.behind [.endTag name]) := by
  have hend : construct none ('/' :: (name ++ '>' :: rest)) =
      .ok (some ⟨[.endTag name], none, rest⟩) := congrArg Except.ok (endTag_written hn rest)
  have hpass := pass_of_construct hend final
  simpa [writtenEnd] using hpass

structure PlainElement (name : Text) (attrs : Attributes) (children : List Node) : Prop where
  plainName : PlainName name
  plainAttrs : ∀ a ∈ attrs, PlainAttribute a.1
  nodup : (attrs.map Prod.fst).Nodup
  void : isVoid name = true → children = []
  plainChildren : arePlain children = true

theorem PlainElement.of_isPlain {name text : Text} {attrs : Attributes} {children : List Node}
    (h : isPlain ⟨.element, name, attrs, children, text⟩ = true) : PlainElement name attrs children := by
  simp only [isPlain, Bool.and_eq_true, Bool.or_eq_true, Bool.not_eq_true', List.isEmpty_iff] at h
  obtain ⟨⟨⟨hname, hattrs⟩, hvoid⟩, hchildren⟩ := h
  refine ⟨.of_isPlainName hname, arePlainAttributes_forall hattrs, ?_, ?_, hchildren⟩
  · exact of_decide_eq_true (Bool.and_eq_true_iff.1 hattrs).2
  · intro hv
    rcases hvoid with h | h
    · rw [h] at hv
      cases hv
    · exact h

theorem arePlain_cons {c : Node} {cs : List Node} (h : arePlain (c :: cs) = true) :
    isPlain c = true ∧ (c.kind = .text → ∀ d ∈ cs.head?, d.kind ≠ .text) ∧ arePlain cs = true := by
  simp only [arePlain, Bool.and_eq_true, Bool.or_eq_true, decide_eq_true_eq, Bool.not_eq_true'] at h
  obtain ⟨⟨hc, hadjacent⟩, hcs⟩ := h
  refine ⟨hc, ?_, hcs⟩
  intro hk d hd
  rcases hadjacent with h | h
  · exact absurd hk h
  · rw [Option.mem_def.1 hd] at h
    simpa using h

theorem isPlain_kind {n : Node} (h : isPlain n = true) : n.kind = .text ∨ n.kind = .element := by
  obtain ⟨kind, name, attrs, children, text⟩ := n
  cases kind with
  | text => exact .inl rfl
  | element => exact .inr rfl
  | document => cases h
  | script => cases h
  | other => cases h
  | unknown label => cases h

/-- The markup of a row whose first node is no text ends a text before it. -/
theorem endsText_writtenAll {ns : List Node} (hp : arePlain ns = true)
    (hh : ∀ n ∈ ns.head?, n.kind ≠ .text) {rest : Text} (hrest : EndsText rest) :
    EndsText (writtenAll ns ++ rest) := by
  cases ns with
  | nil => exact hrest
  | cons n ns =>
    have hk : n.kind = .element := (isPlain_kind (arePlain_cons hp).1).resolve_left (hh n rfl)
    obtain ⟨kind, name, attrs, children, text⟩ := n
    cases hk
    intro c hc
    rw [writtenAll, written] at hc
    by_cases hv : isVoid name
    · simp [hv, writtenStart] at hc
      exact hc.symm
    · simp [hv, writtenStart] at hc
      exact hc.symm

theorem pass_writtenAll {ns : List Node} (h : ∀ n ∈ ns, isPlain n = true → ∀ rest,
      (n.kind = .text → EndsText rest) → pass false none (written n ++ rest) =
        (pass false none rest).map (.behind (tokensOf n)))
    (hp : arePlain ns = true) {rest : Text} (hrest : EndsText rest) :
    pass false none (writtenAll ns ++ rest) =
      (pass false none rest).map (.behind (tokensOfAll ns)) := by
  induction ns with
  | nil => exact (map_behind_nil _).symm
  | cons n ns ih =>
    obtain ⟨hn, hns⟩ := List.forall_mem_cons.1 h
    obtain ⟨hplain, hadjacent, hps⟩ := arePlain_cons hp
    rw [writtenAll, List.append_assoc, hn hplain, ih hns hps, map_behind_behind, tokensOfAll]
    intro hk
    exact endsText_writtenAll hps (hadjacent hk) hrest

theorem pass_written (n : Node) : isPlain n = true → ∀ rest, (n.kind = .text → EndsText rest) →
    pass false none (written n ++ rest) = (pass false none rest).map (.behind (tokensOf n)) := by
  induction n using Node.induction with
  | step n ih =>
    intro hp rest hrest
    obtain ⟨kind, name, attrs, children, text⟩ := n
    rcases isPlain_kind hp with hk | hk
    · cases hk
      exact pass_text [] (by simp) (hrest rfl) false text
    · cases hk
      have hplain := PlainElement.of_isPlain hp
      rw [written, tokensOf]
      by_cases hv : isVoid name
      · rw [if_pos hv, if_pos hv]
        exact pass_writtenStart hplain.plainName hplain.plainAttrs false rest
      · have hends : EndsText (writtenEnd name ++ rest) := by
          rintro c ⟨⟩
          rfl
        rw [if_neg hv, if_neg hv, List.append_assoc, List.append_assoc,
          pass_writtenStart hplain.plainName hplain.plainAttrs, pass_writtenAll ih hplain.plainChildren hends,
          pass_writtenEnd hplain.plainName, map_behind_behind, map_behind_behind]
        rfl

/-- The tokens of a written row of plain trees. -/
theorem tokens_writtenAll {ns : List Node} (hp : arePlain ns = true) :
    tokens (writtenAll ns) = .ok (tokensOfAll ns) := by
  have hends : EndsText [] := by
    rintro c ⟨⟩
  have hfirst := pass_writtenAll (fun n _ => pass_written n) hp hends
  rw [List.append_nil, pass_nil] at hfirst
  unfold tokens
  rw [hfirst]
  change (do let second ← pass true none []; _) = _
  rw [pass_nil]
  change Except.ok (tokensOfAll ns ++ [] ++ [] ++ []) = _
  simp

end MarkupCode.Html
