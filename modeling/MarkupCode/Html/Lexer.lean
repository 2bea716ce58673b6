import MarkupCode.Html.TextReference

/-!
# Reading tokens

A page is read in two passes. The first stops at the first construct that is not complete: markup
without its end, or a reference that the text behind it could still extend. The second goes on from
there, takes incomplete markup for text, and makes a text of whatever it cannot read. Inside an
element whose text is verbatim only the end tag of that element is markup, and text that no such tag
closes is lost.
-/

namespace MarkupCode.Html

/-- Incomplete markup taken for text: up to the next closing angle bracket, or else up to the next
opening one, or else the opening bracket alone. -/
def markupAsText (verbatim : Option Text) (s : Text) : Piece :=
  match cut? '>' s with
  | some (inside, rest) => ⟨[.text ('<' :: inside ++ ['>'])], verbatim, rest⟩
  | none =>
    if '<' ∈ s then
      ⟨[.text ('<' :: s.takeWhile (· ≠ '<'))], verbatim, s.dropWhile (· ≠ '<')⟩
    else ⟨[.text ['<']], verbatim, s⟩

def markup (final : Bool) (verbatim : Option Text) (s : Text) : Except PageError Step := do
  match ← construct verbatim s with
  | some piece => return .advance piece
  | none =>
    if final ∧ s ≠ [] then return .advance (markupAsText verbatim s)
    else return .stop ⟨[], verbatim, '<' :: s⟩

/-- A letter of an element's name in either case, with the characters that only differ from it in
case by other rules. -/
def matchesLetter (letter c : Char) : Bool :=
  c.toLower = letter || (letter = 's' && c = 'ſ') || (letter = 'i' && (c = 'İ' || c = 'ı')) ||
    (letter = 'k' && c = '\u212a')

def matchName? : Text → Text → Option Text
  | [], s => some s
  | _ :: _, [] => none
  | l :: name, c :: s => if matchesLetter l c then matchName? name s else none

def closesVerbatim (name : Text) : Text → Bool
  | '<' :: '/' :: s =>
    match matchName? name (Text.stripLeft s) with
    | some r => (Text.stripLeft r).head? = some '>'
    | none => false
  | _ => false

/-- The text up to the next place where a construct may begin, and the text from there. -/
def interesting (verbatim : Option Text) (s : Text) : Text × Text :=
  match verbatim with
  | some name => breakAt (closesVerbatim name) s
  | none => breakAt (fun t => t.head? ∈ [some '<', some '&']) s

def scan (final : Bool) (verbatim : Option Text) (s : Text) : Except PageError Step :=
  match s with
  | '<' :: r => markup final verbatim r
  | '&' :: r => reference final verbatim r
  | _ => .ok (.advance ⟨[], verbatim, []⟩)

def step (final : Bool) (verbatim : Option Text) (s : Text) : Except PageError Step :=
  let (before, rest) := interesting verbatim s
  if rest = [] ∧ verbatim.isSome then .ok (.stop ⟨[], verbatim, s⟩)
  else (scan final verbatim rest).map (·.after before)

theorem length_markupAsText_le (verbatim : Option Text) (s : Text) :
    (markupAsText verbatim s).rest.length ≤ s.length := by
  unfold markupAsText
  split
  · next h =>
    have := length_cut? h
    dsimp only
    omega
  · split
    · exact length_dropWhile_le _ _
    · exact Nat.le_refl _

theorem length_markup {final : Bool} {verbatim : Option Text} {s : Text} {p : Piece}
    (h : markup final verbatim s = .ok (.advance p)) : p.rest.length ≤ s.length := by
  obtain ⟨found, hf, h⟩ := Outcome.exists_of_bind_ok h
  cases found with
  | none =>
    dsimp only at h
    split at h
    · cases h
      exact length_markupAsText_le verbatim s
    · cases h
  | some piece =>
    cases h
    exact length_construct hf

theorem length_scan {final : Bool} {verbatim : Option Text} {s : Text} {p : Piece} (hs : s ≠ [])
    (h : scan final verbatim s = .ok (.advance p)) : p.rest.length < s.length := by
  unfold scan at h
  split at h
  · have := length_markup h
    simp only [List.length_cons]
    omega
  · have := length_reference h
    simp only [List.length_cons]
    omega
  · cases h
    exact List.length_pos_iff.2 hs

theorem length_interesting (verbatim : Option Text) (s : Text) :
    (interesting verbatim s).1.length + (interesting verbatim s).2.length = s.length := by
  unfold interesting
  split <;> exact length_breakAt _ _

/-- Every step that goes on leaves less than it was given. -/
theorem length_step {final : Bool} {verbatim : Option Text} {s : Text} {p : Piece} (hs : s ≠ [])
    (h : step final verbatim s = .ok (.advance p)) : p.rest.length < s.length := by
  have hl := length_interesting verbatim s
  unfold step at h
  dsimp only at h
  split at h
  · cases h
  · obtain ⟨scanned, hq, ha⟩ := Outcome.exists_of_map_ok h
    cases scanned with
    | stop q => cases ha
    | advance q =>
      cases ha
      change q.rest.length < s.length
      by_cases hr : (interesting verbatim s).2 = []
      · rw [hr] at hq
        cases hq
        exact List.length_pos_iff.2 hs
      · have := length_scan hr hq
        omega

def pass (final : Bool) (verbatim : Option Text) (s : Text) : Except PageError Piece :=
  if _hs : s = [] then .ok ⟨[], verbatim, []⟩
  else
    match _h : step final verbatim s with
    | .error e => .error e
    | .ok (.stop p) => .ok p
    | .ok (.advance p) =>
      (pass final p.verbatim p.rest).map fun q => { q with tokens := p.tokens ++ q.tokens }
termination_by s.length
decreasing_by exact length_step _hs _h

@[simp] theorem pass_nil (final : Bool) (verbatim : Option Text) :
    pass final verbatim [] = .ok ⟨[], verbatim, []⟩ := by
  rw [pass, dif_pos rfl]

theorem pass_of_ne_nil {s : Text} (hs : s ≠ []) (final : Bool) (verbatim : Option Text) :
    pass final verbatim s = (step final verbatim s).bind fun
      | .stop p => .ok p
      | .advance p =>
        (pass final p.verbatim p.rest).map fun q => { q with tokens := p.tokens ++ q.tokens } := by
  rw [pass, dif_neg hs]
  split
  · next h => rw [h]; rfl
  · next h => rw [h]; rfl
  · next h => rw [h]; rfl

theorem pass_of_advance {final : Bool} {verbatim : Option Text} {s : Text} {p : Piece} (hs : s ≠ [])
    (h : step final verbatim s = .ok (.advance p)) :
    pass final verbatim s =
      (pass final p.verbatim p.rest).map fun q => { q with tokens := p.tokens ++ q.tokens } := by
  rw [pass_of_ne_nil hs, h]
  rfl

def tokens (html : Text) : Except PageError (List Token) := do
  let first ← pass false none html
  let second ← pass true first.verbatim first.rest
  let left := if second.verbatim.isSome then [] else textTokens second.rest
  return first.tokens ++ second.tokens ++ left

end MarkupCode.Html
