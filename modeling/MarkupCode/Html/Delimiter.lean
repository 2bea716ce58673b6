import MarkupCode.Text.Blank
import MarkupCode.Text.Digit

/-!
# Delimiters

Markup is cut at delimiters. A delimiter is a function that recognises it at the head of a text and
returns what follows it; `find?` cuts at the first place where it is recognised, and `cut?` at the
first occurrence of one character. The pieces are parts of the text and the rest is shorter.
-/

namespace MarkupCode.Html

def breakAt (q : Text → Bool) : Text → Text × Text
  | [] => ([], [])
  | c :: r =>
    if q (c :: r) then ([], c :: r)
    else
      let (before, rest) := breakAt q r
      (c :: before, rest)

def find? (delimiter : Text → Option Text) (s : Text) : Option (Text × Text) :=
  let (before, from') := breakAt (fun t => (delimiter t).isSome) s
  (delimiter from').map (before, ·)

def cut? (c : Char) (s : Text) : Option (Text × Text) :=
  match s.dropWhile (· ≠ c) with
  | [] => none
  | _ :: rest => some (s.takeWhile (· ≠ c), rest)

def commentEnd? : Text → Option Text
  | '-' :: '-' :: r =>
    match Text.stripLeft r with
    | '>' :: rest => some rest
    | _ => none
  | _ => none

def bracketEnd? : Text → Option Text
  | ']' :: r =>
    match Text.stripLeft r with
    | '>' :: rest => some rest
    | _ => none
  | _ => none

def doubleBracketEnd? : Text → Option Text
  | ']' :: r => bracketEnd? (Text.stripLeft r)
  | _ => none

theorem breakAt_append (q : Text → Bool) (s : Text) : (breakAt q s).1 ++ (breakAt q s).2 = s := by
  induction s with
  | nil => rfl
  | cons c r ih =>
    unfold breakAt
    split
    · rfl
    · simp [ih]

theorem length_breakAt (q : Text → Bool) (s : Text) :
    (breakAt q s).1.length + (breakAt q s).2.length = s.length := by
  rw [← List.length_append, breakAt_append]

theorem cut?_eq_some {c : Char} {s before rest : Text} (h : cut? c s = some (before, rest)) :
    s = before ++ c :: rest ∧ c ∉ before := by
  have hs := List.takeWhile_append_dropWhile (p := (· ≠ c)) (l := s)
  unfold cut? at h
  split at h
  · cases h
  · rename_i d r hd
    cases h
    have hdc : d = c := by
      have := List.head?_dropWhile_not (· ≠ c) s
      rw [hd] at this
      simpa using this
    refine ⟨by rw [hd, hdc] at hs; exact hs.symm, fun hc => ?_⟩
    have := List.all_takeWhile (p := (· ≠ c)) (l := s)
    simp only [List.all_eq_true] at this
    simpa using this c hc

theorem length_cut? {c : Char} {s before rest : Text} (h : cut? c s = some (before, rest)) :
    rest.length < s.length := by
  rw [(cut?_eq_some h).1]
  simp
  omega

theorem length_stripLeft_le (s : Text) : (Text.stripLeft s).length ≤ s.length :=
  List.IsSuffix.length_le (List.dropWhile_suffix _)

theorem length_find? {delimiter : Text → Option Text} {s before rest : Text}
    (hd : ∀ t r, delimiter t = some r → r.length ≤ t.length)
    (h : find? delimiter s = some (before, rest)) : rest.length ≤ s.length := by
  unfold find? at h
  dsimp only at h
  obtain ⟨r, hr, he⟩ := Option.map_eq_some_iff.1 h
  cases he
  have := hd _ _ hr
  have := length_breakAt (fun t => (delimiter t).isSome) s
  omega

theorem length_of_stripLeft_eq_cons {s r : Text} {c : Char} (h : Text.stripLeft s = c :: r) :
    r.length < s.length := by
  have hle := length_stripLeft_le s
  rw [h, List.length_cons] at hle
  exact hle

theorem length_commentEnd? (t r : Text) (h : commentEnd? t = some r) : r.length ≤ t.length := by
  unfold commentEnd? at h
  split at h
  · split at h
    · next hs =>
      cases h
      exact Nat.le_succ_of_le (Nat.le_succ_of_le (Nat.le_of_lt (length_of_stripLeft_eq_cons hs)))
    · cases h
  · cases h

theorem length_bracketEnd? (t r : Text) (h : bracketEnd? t = some r) : r.length ≤ t.length := by
  unfold bracketEnd? at h
  split at h
  · split at h
    · next hs =>
      cases h
      exact Nat.le_succ_of_le (Nat.le_of_lt (length_of_stripLeft_eq_cons hs))
    · cases h
  · cases h

theorem length_doubleBracketEnd? (t r : Text) (h : doubleBracketEnd? t = some r) :
    r.length ≤ t.length := by
  unfold doubleBracketEnd? at h
  split at h
  · rename_i u
    have := length_bracketEnd? _ _ h
    have := length_stripLeft_le u
    simp
    omega
  · cases h

end MarkupCode.Html
