import MarkupCode.Html.Token
import MarkupCode.Html.AttributeScan
import MarkupCode.Html.Reference
import MarkupCode.Outcome

/-!
# Markup

What an opening angle bracket begins: a start tag, an end tag, a comment, a declaration, a marked
section or an instruction. A construct is read from behind the characters that begin it, and reading
returns nothing while the construct is incomplete. No construct leaves more than it was given.
-/

namespace MarkupCode.Html

/-- What was read: tokens, the verbatim element that is open behind them, and what is left. -/
structure Piece where
  tokens : List Token
  verbatim : Option Text
  rest : Text

inductive TagEnd
  | incomplete
  | opening (rest : Text)
  | empty (rest : Text)
  /-- What stands there cannot belong to a tag. -/
  | broken

/-- How a start tag goes on behind its attributes; `slashed` holds when a slash stands before. -/
def tagEnd (slashed : Bool) : Text → TagEnd
  | [] => .incomplete
  | '>' :: rest => if slashed then .empty rest else .opening rest
  | '/' :: '>' :: rest => .empty rest
  | c :: _ => if c = '/' || c = '=' || Text.isAsciiLetter c then .incomplete else .broken

def decodeAttributes (found : List (Text × Text)) : Except PageError (List (Text × Text)) :=
  found.mapM fun a => (decodeValue a.2).map (a.1, ·)

/-- A start tag, read from behind its opening angle bracket; none while it is incomplete. -/
def startTag (verbatim : Option Text) (s : Text) : Except PageError (Option Piece) :=
  let name := Text.lower (s.takeWhile isTagNameChar)
  let afterName := s.dropWhile isTagNameChar
  let isGap (c : Char) : Bool := c = '/' || Text.isBlank c
  let gap := afterName.takeWhile isGap
  let ready := gap ≠ [] || ((s.takeWhile isTagNameChar).getLast?.map opensAttribute).getD false
  let (found, rest) := attributes ready (afterName.dropWhile isGap)
  match tagEnd (found = [] && gap.getLast? = some '/') rest with
  | .incomplete => .ok none
  | .opening rest' => do
    let attrs ← decodeAttributes found
    let verbatim' := if name ∈ verbatimElements then some name else verbatim
    return some ⟨[.startTag name attrs], verbatim', rest'⟩
  | .empty rest' => do
    let attrs ← decodeAttributes found
    return some ⟨[.emptyTag name attrs], verbatim, rest'⟩
  | .broken => do
    let _ ← decodeAttributes found
    return some ⟨[.text ('<' :: s.take (s.length - rest.length))], verbatim, rest⟩

def endName? (inside : Text) : Option Text :=
  let isNameChar (c : Char) : Bool :=
    c ∈ ['-', '.', ':', '_'] || Text.isAsciiLetter c || Text.isAsciiDigit c
  match Text.stripLeft inside with
  | [] => none
  | c :: r =>
    if Text.isAsciiLetter c ∧ Text.stripLeft (r.dropWhile isNameChar) = [] then
      some (Text.lower (c :: r.takeWhile isNameChar))
    else none

/-- An end tag, read from behind its slash. What is no tag there is a comment, or text where only
the end of a verbatim element counts. -/
def endTag (verbatim : Option Text) (s : Text) : Option Piece := do
  let (inside, rest) ← cut? '>' s
  let literally : Token := .text ('<' :: '/' :: inside ++ ['>'])
  match endName? inside, verbatim with
  | some n, none => return ⟨[.endTag n], none, rest⟩
  | some n, some v =>
    if n = v then return ⟨[.endTag n], none, rest⟩ else return ⟨[literally], verbatim, rest⟩
  | none, some _ => return ⟨[literally], verbatim, rest⟩
  | none, none =>
    match inside with
    | [] => return ⟨[], none, rest⟩
    | c :: _ =>
      if Text.isAsciiLetter c then
        return ⟨[.endTag (Text.lower (inside.takeWhile isTagNameChar))], none, rest⟩
      else return ⟨[.inert .comment inside], none, rest⟩

def plainSections : List Text :=
  ["temp", "cdata", "ignore", "include", "rcdata"].map String.toList

def officeSections : List Text := ["if", "else", "endif"].map String.toList

def sectionToken (s : Text) : Token :=
  if Text.lower (s.take 6) = "cdata[".toList then .inert .characterData (s.drop 6)
  else .inert .declaration s

def markedSection (verbatim : Option Text) (s : Text) : Except PageError (Option Piece) :=
  let isNameChar (c : Char) : Bool :=
    c ∈ ['-', '_', '.'] || Text.isAsciiLetter c || Text.isAsciiDigit c
  let name := s.takeWhile isNameChar
  let blanks := (s.dropWhile isNameChar).takeWhile Text.isBlank
  let within (delimiter : Text → Option Text) : Option Piece :=
    (find? delimiter s).map fun (inside, rest) => ⟨[sectionToken inside], verbatim, rest⟩
  match s with
  | [] => .ok none
  | c :: _ =>
    if !Text.isAsciiLetter c then .error (.expectedName (('<' :: '!' :: '[' :: s).take 20))
    else if s.length ≤ name.length + blanks.length then .ok none
    else if Text.lower name ∈ plainSections then .ok (within doubleBracketEnd?)
    else if Text.lower name ∈ officeSections then .ok (within bracketEnd?)
    else .error (.unknownKeyword (name ++ blanks))

def declaration (verbatim : Option Text) (s : Text) : Except PageError (Option Piece) :=
  match s with
  | '-' :: '-' :: r =>
    .ok ((find? commentEnd? r).map fun (inside, rest) =>
      ⟨[.inert .comment inside], verbatim, rest⟩)
  | '[' :: r => markedSection verbatim r
  | _ =>
    if Text.lower (s.take 7) = "doctype".toList then
      .ok ((cut? '>' (s.drop 7)).map fun (inside, rest) =>
        ⟨[.inert .doctype (inside.drop 1)], verbatim, rest⟩)
    else .ok ((cut? '>' s).map fun (inside, rest) => ⟨[.inert .comment inside], verbatim, rest⟩)

/-- The construct behind an opening angle bracket; none while it is incomplete. -/
def construct (verbatim : Option Text) (s : Text) : Except PageError (Option Piece) :=
  match s with
  | '/' :: r => .ok (endTag verbatim r)
  | '?' :: r =>
    .ok ((cut? '>' r).map fun (inside, rest) => ⟨[.inert .instruction inside], verbatim, rest⟩)
  | '!' :: r => declaration verbatim r
  | c :: _ =>
    if Text.isAsciiLetter c then startTag verbatim s
    else .ok (some ⟨[.text ['<']], verbatim, s⟩)
  | [] => .ok none

theorem length_tagEnd {slashed : Bool} {s rest : Text}
    (h : tagEnd slashed s = .opening rest ∨ tagEnd slashed s = .empty rest) :
    rest.length ≤ s.length := by
  unfold tagEnd at h
  split at h
  · simp at h
  · split at h <;> simp at h <;> simp [h]
  · simp at h
    simp only [← h, List.length_cons]
    omega
  · split at h <;> simp at h

theorem length_startTag {verbatim : Option Text} {s : Text} {p : Piece}
    (h : startTag verbatim s = .ok (some p)) : p.rest.length ≤ s.length := by
  unfold startTag at h
  dsimp only at h
  have h1 := length_dropWhile_le isTagNameChar s
  have h2 := length_dropWhile_le (fun c => c = '/' || Text.isBlank c) (s.dropWhile isTagNameChar)
  have h3 := length_attributes_le
    ((s.dropWhile isTagNameChar).takeWhile (fun c => c = '/' || Text.isBlank c) ≠ [] ||
      ((s.takeWhile isTagNameChar).getLast?.map opensAttribute).getD false)
    ((s.dropWhile isTagNameChar).dropWhile fun c => c = '/' || Text.isBlank c)
  split at h
  · cases h
  · rename_i rest' he
    have := length_tagEnd (.inl he)
    obtain ⟨attrs, _, hp⟩ := Outcome.exists_of_bind_ok h
    cases hp
    dsimp only
    omega
  · rename_i rest' he
    have := length_tagEnd (.inr he)
    obtain ⟨attrs, _, hp⟩ := Outcome.exists_of_bind_ok h
    cases hp
    dsimp only
    omega
  · obtain ⟨attrs, _, hp⟩ := Outcome.exists_of_bind_ok h
    cases hp
    dsimp only
    omega

theorem length_endTag {verbatim : Option Text} {s : Text} {p : Piece}
    (h : endTag verbatim s = some p) : p.rest.length ≤ s.length := by
  unfold endTag at h
  cases hc : cut? '>' s with
  | none => simp [hc] at h
  | some cut =>
    obtain ⟨inside, rest⟩ := cut
    have := length_cut? hc
    simp only [hc, Option.bind_eq_bind, Option.bind_some] at h
    have hp : p.rest = rest := by
      repeat' split at h
      all_goals cases h; rfl
    rw [hp]
    omega

theorem length_markedSection {verbatim : Option Text} {s : Text} {p : Piece}
    (h : markedSection verbatim s = .ok (some p)) : p.rest.length ≤ s.length := by
  have hw {delimiter : Text → Option Text} {q : Piece}
      (hd : ∀ t r, delimiter t = some r → r.length ≤ t.length)
      (hq : (find? delimiter s).map (fun c => ⟨[sectionToken c.1], verbatim, c.2⟩) = some q) :
      q.rest.length ≤ s.length := by
    obtain ⟨⟨inside, rest⟩, hf, rfl⟩ := Option.map_eq_some_iff.1 hq
    exact length_find? hd hf
  unfold markedSection at h
  dsimp only at h
  split at h
  · cases h
  · repeat' split at h
    · cases h
    · cases h
    · exact hw length_doubleBracketEnd? (Except.ok.inj h)
    · exact hw length_bracketEnd? (Except.ok.inj h)
    · cases h

theorem length_declaration {verbatim : Option Text} {s : Text} {p : Piece}
    (h : declaration verbatim s = .ok (some p)) : p.rest.length ≤ s.length := by
  unfold declaration at h
  split at h
  · obtain ⟨⟨inside, rest⟩, hf, rfl⟩ := Option.map_eq_some_iff.1 (Except.ok.inj h)
    have := length_find? length_commentEnd? hf
    simp only [List.length_cons]
    omega
  · have := length_markedSection h
    simp only [List.length_cons]
    omega
  · split at h
    · obtain ⟨⟨inside, rest⟩, hc, rfl⟩ := Option.map_eq_some_iff.1 (Except.ok.inj h)
      have := length_cut? hc
      simp only [List.length_drop] at this ⊢
      omega
    · obtain ⟨⟨inside, rest⟩, hc, rfl⟩ := Option.map_eq_some_iff.1 (Except.ok.inj h)
      have := length_cut? hc
      dsimp only
      omega

theorem length_construct {verbatim : Option Text} {s : Text} {p : Piece}
    (h : construct verbatim s = .ok (some p)) : p.rest.length ≤ s.length := by
  unfold construct at h
  split at h
  · have := length_endTag (Except.ok.inj h)
    simp only [List.length_cons]
    omega
  · obtain ⟨⟨inside, rest⟩, hc, rfl⟩ := Option.map_eq_some_iff.1 (Except.ok.inj h)
    have := length_cut? hc
    simp only [List.length_cons]
    omega
  · have := length_declaration h
    simp only [List.length_cons]
    omega
  · split at h
    · exact length_startTag h
    · cases h
      exact Nat.le_refl _
  · cases h

end MarkupCode.Html
