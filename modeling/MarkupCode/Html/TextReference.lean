import MarkupCode.Html.Markup

/-!
# References in running text

A pass over a page goes on behind each construct that it can read and stops at the first one that it
cannot. In running text a reference is read only when the character behind it ends it; a reference
that the end of the text cuts off stops the pass.
-/

namespace MarkupCode.Html

inductive Step
  | advance (piece : Piece)
  | stop (piece : Piece)

def textTokens (s : Text) : List Token := if s = [] then [] else [.text s]

def Piece.after (before : Text) (p : Piece) : Piece :=
  { p with tokens := textTokens before ++ p.tokens }

def Step.after (before : Text) : Step → Step
  | .advance p => .advance (p.after before)
  | .stop p => .stop (p.after before)

/-- A numeric reference behind `&#`. It needs its digits and a character behind them that is no
hexadecimal digit. -/
def numericReference (verbatim : Option Text) (s : Text) : Except PageError Step :=
  let digits := s.takeWhile Text.isAsciiDigit
  let hexDigits := (s.drop 1).takeWhile Text.isHexDigit
  let found : Option (Reference × Text) :=
    if s.head? ∈ [some 'x', some 'X'] ∧ hexDigits ≠ [] then
      some (.hexadecimal hexDigits, s.drop (1 + hexDigits.length))
    else if digits ≠ [] then some (.decimal digits, s.drop digits.length)
    else none
  match found with
  | some (r, c :: rest) =>
    if Text.isHexDigit c then stopped else do
      return .advance ⟨[.text (← r.inText)], verbatim, dropSemicolon (c :: rest)⟩
  | _ => stopped
where
  stopped : Except PageError Step :=
    if ';' ∈ s then .ok (.stop ⟨[.text ['&', '#']], verbatim, s⟩)
    else .ok (.stop ⟨[], verbatim, '&' :: '#' :: s⟩)

/-- A named reference behind an ampersand: a run of name characters and a character behind them,
which at the end of the text may be the last hyphen or point of the run. -/
def namedReference (final : Bool) (verbatim : Option Text) (s : Text) : Except PageError Step :=
  let isNameChar (c : Char) : Bool :=
    c ∈ ['-', '.'] || Text.isAsciiLetter c || Text.isAsciiDigit c
  let name := s.takeWhile isNameChar
  let rest := s.dropWhile isNameChar
  let behind := (name.reverse.takeWhile fun c => c ∉ ['-', '.']).reverse
  if rest ≠ [] then do
    let t ← (Reference.named name (rest.head? = some ';')).inText
    return .advance ⟨[.text t], verbatim, dropSemicolon rest⟩
  else if behind.length < name.length then do
    let shorter := name.length - behind.length - 1
    let t ← (Reference.named (name.take shorter) false).inText
    return .advance ⟨[.text t], verbatim, name.drop shorter⟩
  else if final ∧ name.length = 1 then .ok (.stop ⟨[], verbatim, s⟩)
  else .ok (.stop ⟨[], verbatim, '&' :: s⟩)

def reference (final : Bool) (verbatim : Option Text) (s : Text) : Except PageError Step :=
  match s with
  | [] => .ok (.stop ⟨[], verbatim, ['&']⟩)
  | '#' :: r => numericReference verbatim r
  | c :: _ =>
    if Text.isAsciiLetter c then namedReference final verbatim s
    else .ok (.advance ⟨[.text ['&']], verbatim, s⟩)

theorem length_stopped {verbatim : Option Text} {s : Text} {p : Piece}
    (h : numericReference.stopped verbatim s = .ok (.advance p)) : p.rest.length ≤ s.length := by
  unfold numericReference.stopped at h
  split at h <;> cases h

theorem length_numericReference {verbatim : Option Text} {s : Text} {p : Piece}
    (h : numericReference verbatim s = .ok (.advance p)) : p.rest.length ≤ s.length := by
  unfold numericReference at h
  dsimp only at h
  split at h
  · rename_i r c rest hf
    have hs : (c :: rest).length ≤ s.length := by
      split at hf
      · have := congrArg (fun o => o.map (fun x => x.2.length)) hf
        simp at this ⊢
        omega
      · split at hf
        · have := congrArg (fun o => o.map (fun x => x.2.length)) hf
          simp at this ⊢
          omega
        · cases hf
    split at h
    · exact length_stopped h
    · obtain ⟨t, _, hp⟩ := Outcome.exists_of_bind_ok h
      cases hp
      exact Nat.le_trans (length_dropSemicolon_le _) hs
  · exact length_stopped h

theorem length_namedReference {final : Bool} {verbatim : Option Text} {s : Text} {p : Piece}
    (h : namedReference final verbatim s = .ok (.advance p)) : p.rest.length ≤ s.length := by
  unfold namedReference at h
  dsimp only at h
  repeat' split at h
  · obtain ⟨t, _, hp⟩ := Outcome.exists_of_bind_ok h
    cases hp
    exact Nat.le_trans (length_dropSemicolon_le _) (length_dropWhile_le _ _)
  · obtain ⟨t, _, hp⟩ := Outcome.exists_of_bind_ok h
    cases hp
    have := List.IsPrefix.length_le (List.takeWhile_prefix (l := s)
      fun c => c ∈ ['-', '.'] || Text.isAsciiLetter c || Text.isAsciiDigit c)
    simp only [List.length_drop]
    omega
  · cases h
  · cases h

theorem length_reference {final : Bool} {verbatim : Option Text} {s : Text} {p : Piece}
    (h : reference final verbatim s = .ok (.advance p)) : p.rest.length ≤ s.length := by
  unfold reference at h
  split at h
  · cases h
  · have := length_numericReference h
    simp only [List.length_cons]
    omega
  · split at h
    · exact length_namedReference h
    · cases h
      exact Nat.le_refl _

end MarkupCode.Html
