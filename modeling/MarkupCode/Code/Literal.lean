import MarkupCode.Text.Blank

/-!
# String literals

`escape` prepares a text for the inside of a double-quoted literal. It escapes backslashes first, so
that the backslashes of the later steps stay single; taken together the four steps are one pass that
treats each character on its own (`escape_eq_flatMap`). The body of a script is kept readable:
`calm` only turns its double quotes into apostrophes.
-/

namespace MarkupCode.Code

def replace (c : Char) (t : Text) (s : Text) : Text :=
  s.flatMap fun x => if x = c then t else [x]

def escape (s : Text) : Text :=
  replace '\r' ['\\', 'r'] (replace '\n' ['\\', 'n']
    (replace '"' ['\\', '"'] (replace '\\' ['\\', '\\'] s)))

def escapeChar (c : Char) : Text :=
  if c = '\\' then ['\\', '\\']
  else if c = '"' then ['\\', '"']
  else if c = '\n' then ['\\', 'n']
  else if c = '\r' then ['\\', 'r']
  else [c]

def calm (s : Text) : Text := replace '"' ['\''] s

theorem replace_append (c : Char) (t s s' : Text) :
    replace c t (s ++ s') = replace c t s ++ replace c t s' := by
  simp [replace]

theorem escape_append (s s' : Text) : escape (s ++ s') = escape s ++ escape s' := by
  simp only [escape, replace_append]

theorem escape_singleton (c : Char) : escape [c] = escapeChar c := by
  by_cases h1 : c = '\\'
  · subst h1; decide
  by_cases h2 : c = '"'
  · subst h2; decide
  by_cases h3 : c = '\n'
  · subst h3; decide
  by_cases h4 : c = '\r'
  · subst h4; decide
  simp [escape, replace, escapeChar, h1, h2, h3, h4]

theorem escape_eq_flatMap (s : Text) : escape s = s.flatMap escapeChar := by
  induction s with
  | nil => rfl
  | cons c r ih =>
    rw [List.flatMap_cons, ← ih, ← escape_singleton, ← escape_append, List.singleton_append]

/-- The literal of a text, or nothing when the text is blank. -/
def textCode (escaping : Text → Text) (s : Text) : Text :=
  if Text.strip s = [] then []
  else "_text \"".toList ++ escaping (Text.strip s) ++ ['"']

theorem textCode_eq_nil_iff (escaping : Text → Text) (s : Text) :
    textCode escaping s = [] ↔ Text.strip s = [] := by
  unfold textCode
  split <;> simp_all

end MarkupCode.Code
