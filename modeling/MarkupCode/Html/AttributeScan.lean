import MarkupCode.Html.Delimiter
import MarkupCode.Text.Case

/-!
# Attributes of a start tag

Attributes are scanned leniently. One may begin behind a blank, a slash or a quote; its name runs to
a blank, slash, equals sign or closing angle bracket, and a value follows equals signs, in quotes or
bare. A quote that is never closed takes no value with it: the scan falls back to an empty value, to
a bare value that begins with one of the equals signs, or to no value, whichever fits first.
-/

namespace MarkupCode.Html

def isTagNameChar (c : Char) : Bool :=
  c ∉ ['\t', '\n', '\r', '\x0c', ' ', '/', '>', '\x00']

def opensAttribute (c : Char) : Bool := c ∈ ['\'', '"', '/'] || Text.isBlank c

def isAttributeNameChar (c : Char) : Bool := !(c ∈ ['/', '=', '>'] || Text.isBlank c)

def isBareChar (c : Char) : Bool := !(c = '>' || Text.isBlank c)

/-- A blank, or a slash that does not close the tag, is at the head. -/
def beginsGap : Text → Bool
  | [] => false
  | c :: rest => Text.isBlank c || c = '/' && rest.head? ≠ some '>'

def skipGap : Text → Text
  | [] => []
  | c :: rest => if beginsGap (c :: rest) then skipGap rest else c :: rest

/-- What a scan found behind a name: the value, whether an attribute may begin right behind it, and
what is left. -/
abbrev Scanned := Text × Bool × Text

def bareValue (s : Text) : Scanned := (s.takeWhile isBareChar, false, s.dropWhile isBareChar)

def attributeValue? (s : Text) : Option Scanned :=
  let signs := (Text.stripLeft s).takeWhile (· = '=')
  let afterSigns := (Text.stripLeft s).dropWhile (· = '=')
  let value := Text.stripLeft afterSigns
  if signs = [] then none
  else match value with
    | [] => some (bareValue [])
    | q :: r =>
      if q = '\'' ∨ q = '"' then
        match cut? q r with
        | some (v, rest) => some (v, true, rest)
        | none =>
          if (afterSigns.head?.map Text.isBlank).getD false then some ([], true, value)
          else if 2 ≤ signs.length then some (bareValue ('=' :: value))
          else none
      else some (bareValue value)

/-- The attribute at the head of a text; `ready` holds when an attribute may begin there. -/
def attribute? (ready : Bool) (s : Text) : Option ((Text × Text) × Bool × Text) :=
  match s with
  | [] => none
  | c :: r =>
    if !ready || Text.isBlank c || c ∈ ['/', '>'] then none
    else
      let name := c :: r.takeWhile isAttributeNameChar
      let afterName := r.dropWhile isAttributeNameChar
      let (value, open', rest) := (attributeValue? afterName).getD
        ([], (name.getLast?.map opensAttribute).getD false, afterName)
      some ((Text.lower name, value), open' || beginsGap rest, skipGap rest)

theorem length_dropWhile_le (p : Char → Bool) (s : Text) : (s.dropWhile p).length ≤ s.length :=
  List.IsSuffix.length_le (List.dropWhile_suffix _)

theorem length_skipGap_le (s : Text) : (skipGap s).length ≤ s.length := by
  induction s with
  | nil => simp [skipGap]
  | cons c r ih =>
    unfold skipGap
    split
    · simp; omega
    · simp

theorem length_attributeValue? {s rest v : Text} {b : Bool}
    (h : attributeValue? s = some (v, b, rest)) : rest.length ≤ s.length := by
  have h1 := length_stripLeft_le s
  have h2 := length_dropWhile_le (· = '=') (Text.stripLeft s)
  have h3 := length_stripLeft_le ((Text.stripLeft s).dropWhile (· = '='))
  have h4 := List.takeWhile_append_dropWhile (p := (· = '=')) (l := Text.stripLeft s)
  have h5 := congrArg List.length h4
  rw [List.length_append] at h5
  unfold attributeValue? at h
  dsimp only at h
  split at h
  · cases h
  · split at h
    · cases h; simp
    · rename_i q r hv
      rw [hv] at h3
      have hbare (t : Text) := length_dropWhile_le isBareChar t
      split at h
      · split at h
        · rename_i hc
          have := length_cut? hc
          cases h
          simp at h3
          omega
        · split at h
          · cases h
            rw [hv]
            omega
          · split at h
            · rename_i hn
              cases h
              have := hbare ('=' :: Text.stripLeft ((Text.stripLeft s).dropWhile (· = '=')))
              rw [hv] at this ⊢
              simp only [List.length_cons] at this h3 ⊢
              omega
            · cases h
      · cases h
        have := hbare (Text.stripLeft ((Text.stripLeft s).dropWhile (· = '=')))
        rw [hv] at this ⊢
        omega

theorem length_attribute? {ready ready' : Bool} {s rest : Text} {a : Text × Text}
    (h : attribute? ready s = some (a, ready', rest)) : rest.length < s.length := by
  unfold attribute? at h
  split at h
  · cases h
  · rename_i c r
    split at h
    · cases h
    · dsimp only at h
      have hd := length_dropWhile_le isAttributeNameChar r
      cases hv : attributeValue? (r.dropWhile isAttributeNameChar) with
      | none =>
        rw [hv] at h
        cases h
        have := length_skipGap_le (r.dropWhile isAttributeNameChar)
        simp only [Option.getD_none, List.length_cons]
        omega
      | some p =>
        obtain ⟨v, b, t⟩ := p
        rw [hv] at h
        cases h
        have := length_attributeValue? hv
        have := length_skipGap_le t
        simp only [Option.getD_some, List.length_cons]
        omega

def attributes (ready : Bool) (s : Text) : List (Text × Text) × Text :=
  match _h : attribute? ready s with
  | none => ([], s)
  | some (a, ready', rest) =>
    let (more, rest') := attributes ready' rest
    (a :: more, rest')
termination_by s.length
decreasing_by exact length_attribute? _h

theorem length_attributes_le (ready : Bool) (s : Text) :
    (attributes ready s).2.length ≤ s.length := by
  induction hn : s.length using Nat.strongRecOn generalizing ready s with
  | ind n ih =>
    unfold attributes
    split
    · simp [hn]
    · rename_i a ready' rest h
      have hl := length_attribute? h
      have := ih rest.length (by omega) ready' rest rfl
      dsimp only
      omega

end MarkupCode.Html
