import Mathlib.Algebra.Group.Nat.Even
import MarkupCode.Code.Reader

/-!
# Where a literal ends

A backslash takes the character behind it along, so a literal ends at the first quote that has an even
number of backslashes in front of it. Escaping puts a backslash in front of every quote and doubles the
backslashes there are: an escaped text ends where it is meant to, is read back, and stays on its line. A
calmed text has no quotes and keeps its backslashes, and ends where it is meant to when they are even at
its end.
-/

namespace MarkupCode.Code

/-- The number of backslashes that a text ends in. -/
def trailing (s : Text) : Nat := (s.reverse.takeWhile (· = '\\')).length

@[simp] theorem trailing_nil : trailing [] = 0 := rfl

theorem trailing_le (s : Text) : trailing s ≤ s.length := by
  have hle := (List.takeWhile_prefix (l := s.reverse) (· = '\\')).length_le
  rwa [List.length_reverse] at hle

theorem trailing_cons (c : Char) (s : Text) :
    trailing (c :: s) = if trailing s = s.length ∧ c = '\\' then s.length + 1 else trailing s := by
  rw [trailing, List.reverse_cons, List.takeWhile_append, List.length_reverse, ← trailing]
  by_cases h : trailing s = s.length
  · by_cases hc : c = '\\' <;> simp [h, hc]
  · rw [if_neg h, if_neg fun hs => h hs.1]
    rfl

theorem trailing_cons_of_ne {c : Char} (hc : c ≠ '\\') (s : Text) : trailing (c :: s) = trailing s := by
  rw [trailing_cons, if_neg fun h => hc h.2]

theorem trailing_eq_zero_of_notMem {s : Text} (h : '\\' ∉ s) : trailing s = 0 := by
  induction s with
  | nil => rfl
  | cons c s ih =>
    rw [List.mem_cons, not_or] at h
    rw [trailing_cons_of_ne (Ne.symm h.1), ih h.2]

/-- A backslash and the character that it takes along leave the parity as it is. -/
theorem even_trailing_pair (c : Char) (s : Text) : Even (trailing ('\\' :: c :: s)) ↔ Even (trailing s) := by
  rw [trailing_cons '\\' (c :: s)]
  by_cases h : trailing s = s.length ∧ c = '\\'
  · have hall : trailing (c :: s) = (c :: s).length := by
      rw [trailing_cons, if_pos h]
      rfl
    rw [if_pos ⟨hall, rfl⟩, h.1, List.length_cons, Nat.even_iff, Nat.even_iff]
    omega
  · have hsame : trailing (c :: s) = trailing s := by rw [trailing_cons, if_neg h]
    have hle := trailing_le s
    rw [if_neg, hsame]
    rw [hsame, List.length_cons]
    omega

/-- A text as it can stand inside a literal: backslashes take its quotes along, and do not take along what
is put behind it. -/
structure IsInside (s : Text) : Prop where
  even : Even (trailing s)
  taken : ∀ before after, s = before ++ '"' :: after → ¬ Even (trailing before)

theorem isInside_nil : IsInside [] := ⟨by decide, by simp⟩

theorem not_isInside_quote_cons (s : Text) : ¬ IsInside ('"' :: s) := by
  intro h
  exact h.taken [] s rfl (by decide)

theorem not_isInside_backslash : ¬ IsInside ['\\'] := by
  intro h
  exact absurd h.even (by decide)

theorem isInside_cons_iff {c : Char} (hq : c ≠ '"') (hb : c ≠ '\\') (s : Text) :
    IsInside (c :: s) ↔ IsInside s := by
  constructor
  · intro h
    refine ⟨trailing_cons_of_ne hb s ▸ h.even, ?_⟩
    rintro before after rfl
    rw [← trailing_cons_of_ne hb]
    exact h.taken (c :: before) after rfl
  · intro h
    refine ⟨(trailing_cons_of_ne hb s).symm ▸ h.even, ?_⟩
    intro before after hs
    obtain ⟨rfl, hs'⟩ | ⟨before, rfl, rfl⟩ := List.cons_eq_append_iff.1 hs
    · exact absurd (List.cons.inj hs').1.symm hq
    · rw [trailing_cons_of_ne hb]
      exact h.taken before after rfl

theorem isInside_pair_iff (c : Char) (s : Text) : IsInside ('\\' :: c :: s) ↔ IsInside s := by
  constructor
  · intro h
    refine ⟨(even_trailing_pair c s).1 h.even, ?_⟩
    rintro before after rfl
    rw [← even_trailing_pair c]
    exact h.taken ('\\' :: c :: before) after rfl
  · intro h
    refine ⟨(even_trailing_pair c s).2 h.even, ?_⟩
    intro before after hs
    obtain ⟨rfl, hs'⟩ | ⟨before, rfl, hs'⟩ := List.cons_eq_append_iff.1 hs
    · exact absurd (List.cons.inj hs').1 (by decide)
    obtain ⟨rfl, -⟩ | ⟨before, rfl, rfl⟩ := List.cons_eq_append_iff.1 hs'
    · decide
    · rw [even_trailing_pair]
      exact h.taken before after rfl

theorem breakLiteral_cons {c : Char} (hq : c ≠ '"') (hb : c ≠ '\\') (s : Text) :
    breakLiteral (c :: s) = (breakLiteral s).map fun p => (c :: p.1, p.2) := by
  rw [breakLiteral.eq_4]
  · exact hq
  · exact fun _ _ e => absurd e hb

/-- A text that can stand inside a literal is what the scan takes. -/
theorem breakLiteral_append {inside : Text} (h : IsInside inside) (rest : Text) :
    breakLiteral (inside ++ '"' :: rest) = some (inside, rest) := by
  induction inside using breakLiteral.induct with
  | case1 => rfl
  | case2 inside => exact absurd h (not_isInside_quote_cons inside)
  | case3 c inside ih =>
    have ih := ih ((isInside_pair_iff c inside).1 h)
    simp [breakLiteral, ih]
  | case4 c inside hq hb ih =>
    by_cases hc : c = '\\'
    · -- with nothing behind it, the backslash would take the closing quote along
      cases inside with
      | nil => exact absurd (hc ▸ h) not_isInside_backslash
      | cons d inside => exact absurd rfl (hb d inside hc)
    · rw [List.cons_append, breakLiteral_cons hq hc, ih ((isInside_cons_iff hq hc inside).1 h)]
      rfl

theorem isInside_of_breakLiteral {s inside rest : Text} (h : breakLiteral s = some (inside, rest)) :
    s = inside ++ '"' :: rest ∧ IsInside inside := by
  fun_induction breakLiteral s generalizing inside with
  | case1 => cases h
  | case2 s =>
    obtain ⟨rfl, rfl⟩ := Prod.mk.inj (Option.some.inj h)
    exact ⟨rfl, isInside_nil⟩
  | case3 c s ih =>
    obtain ⟨⟨inside, rest⟩, hs, hp⟩ := Option.map_eq_some_iff.1 h
    obtain ⟨rfl, rfl⟩ := Prod.mk.inj hp
    obtain ⟨rfl, hinside⟩ := ih hs
    exact ⟨rfl, (isInside_pair_iff c inside).2 hinside⟩
  | case4 c s hq hb ih =>
    obtain ⟨⟨inside, rest⟩, hs, hp⟩ := Option.map_eq_some_iff.1 h
    obtain ⟨rfl, rfl⟩ := Prod.mk.inj hp
    obtain ⟨rfl, hinside⟩ := ih hs
    have hc : c ≠ '\\' := by
      intro hc
      cases inside with
      | nil => exact hb '"' rest hc rfl
      | cons d inside => exact hb d (inside ++ '"' :: rest) hc rfl
    exact ⟨rfl, (isInside_cons_iff hq hc inside).2 hinside⟩

/-- A literal ends at the first quote that an even number of backslashes stands in front of. -/
theorem breakLiteral_eq_some_iff {s inside rest : Text} :
    breakLiteral s = some (inside, rest) ↔ s = inside ++ '"' :: rest ∧ IsInside inside :=
  ⟨isInside_of_breakLiteral, fun ⟨hs, h⟩ => hs ▸ breakLiteral_append h rest⟩

/-- Without quotes in the way, only the backslashes at the end count. -/
theorem isInside_iff_even {s : Text} (hq : '"' ∉ s) : IsInside s ↔ Even (trailing s) := by
  refine ⟨IsInside.even, fun h => ⟨h, ?_⟩⟩
  rintro before after rfl
  exact absurd (List.mem_append_right before List.mem_cons_self) hq

/-! ### Calmed texts -/

theorem calm_cons (c : Char) (s : Text) : calm (c :: s) = (if c = '"' then '\'' else c) :: calm s := by
  rw [calm, replace, List.flatMap_cons]
  split <;> rfl

theorem notMem_calm {c : Char} (hc : c ≠ '\'') {s : Text} (h : c ∉ s) : c ∉ calm s := by
  induction s with
  | nil => exact List.not_mem_nil
  | cons d s ih =>
    rw [List.mem_cons, not_or] at h
    rw [calm_cons, List.mem_cons, not_or]
    refine ⟨?_, ih h.2⟩
    split
    · exact hc
    · exact h.1

theorem quote_notMem_calm (s : Text) : '"' ∉ calm s := by
  induction s with
  | nil => exact List.not_mem_nil
  | cons c s ih =>
    rw [calm_cons, List.mem_cons, not_or]
    refine ⟨?_, ih⟩
    split
    · decide
    · next hc => exact Ne.symm hc

theorem length_calm (s : Text) : (calm s).length = s.length := by
  induction s with
  | nil => rfl
  | cons c s ih => rw [calm_cons, List.length_cons, List.length_cons, ih]

/-- Calming leaves the backslashes of a text where they are. -/
theorem trailing_calm (s : Text) : trailing (calm s) = trailing s := by
  induction s with
  | nil => rfl
  | cons c s ih =>
    have hbackslash : (if c = '"' then '\'' else c) = '\\' ↔ c = '\\' := by
      split
      · next hc => simp [hc]
      · rfl
    rw [calm_cons, trailing_cons, trailing_cons, ih, length_calm]
    simp only [hbackslash]

theorem isInside_calm_iff {s : Text} : IsInside (calm s) ↔ Even (trailing s) := by
  rw [isInside_iff_even (quote_notMem_calm s), trailing_calm]

/-! ### Escaped texts -/

theorem isInside_escape (s : Text) : IsInside (escape s) :=
  (isInside_of_breakLiteral (breakLiteral_escape s [])).2

/-- An escaped text has no line break. -/
theorem break_notMem_escape {c : Char} (hc : c = '\n' ∨ c = '\r') (s : Text) : c ∉ escape s := by
  rw [escape_eq_flatMap]
  intro h
  obtain ⟨d, -, hd⟩ := List.mem_flatMap.1 h
  unfold escapeChar at hd
  split_ifs at hd with _ _ hn hr
  case neg =>
    obtain rfl := List.mem_singleton.1 hd
    exact hc.elim hn hr
  all_goals rcases hc with rfl | rfl <;> simp at hd

theorem escape_eq_escape_iff {s s' : Text} : escape s = escape s' ↔ s = s' := by
  constructor
  · intro h
    have hread := unescape_escape s
    rw [h, unescape_escape] at hread
    exact (Option.some.inj hread).symm
  · rintro rfl
    rfl

/-- An escaped text has its end where it is put, whatever follows, stands on one line and is read back;
so it stands for one text only, and texts are escaped piece by piece. -/
theorem breakLiteral_and_unescape_escape :
    (∀ s rest : Text, breakLiteral (escape s ++ '"' :: rest) = some (escape s, rest) ∧
      IsInside (escape s) ∧ '\n' ∉ escape s ∧ '\r' ∉ escape s ∧ unescape (escape s) = some s) ∧
    (∀ s s' : Text, escape s = escape s' ↔ s = s') ∧
    ∀ s s' : Text, escape (s ++ s') = escape s ++ escape s' := by
  refine ⟨?_, fun _ _ => escape_eq_escape_iff, escape_append⟩
  intro s rest
  exact ⟨breakLiteral_escape s rest, isInside_escape s, break_notMem_escape (.inl rfl) s,
    break_notMem_escape (.inr rfl) s, unescape_escape s⟩

end MarkupCode.Code
