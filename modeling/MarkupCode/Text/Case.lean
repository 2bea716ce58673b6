import MarkupCode.Text.CaseTable

/-!
# Upper and lower case

Full case mapping of Unicode. One character may have an upper-case form of several characters
(`upper`). The lower-case form of a text depends on its surroundings in one case only: a capital
sigma that ends a word, that is, with a cased character before it and none after it once ignorable
characters are skipped, becomes a final sigma.
-/

namespace MarkupCode.Text

def upper (c : Char) : Text :=
  if c.toNat < 128 then [c.toUpper]
  else match upperExpansions.lookup c.toNat with
    | some cs => cs.map Char.ofNat
    | none => [shifted upperShifts c]

def isCased (c : Char) : Bool :=
  if c.toNat < 128 then c.isAlpha else inClass cased c

/-- The first character that is not ignorable is cased. -/
def meetsCased (s : Text) : Bool :=
  ((s.dropWhile (inClass caseIgnorable)).head?.map isCased).getD false

/-- The lower-case form of a character; `before` holds the characters in front of it, nearest
first, and `after` those behind it. -/
def lowerChar (before : Text) (c : Char) (after : Text) : Text :=
  if c.toNat < 128 then [c.toLower]
  else if c = 'İ' then ['i', '\u0307']
  else if c = 'Σ' then [if meetsCased before && !meetsCased after then 'ς' else 'σ']
  else [shifted lowerShifts c]

def lowerFrom (before : Text) : Text → Text
  | [] => []
  | c :: rest => lowerChar before c rest ++ lowerFrom (c :: before) rest

def lower (s : Text) : Text := lowerFrom [] s

theorem lowerFrom_of_ascii {before s : Text} (h : ∀ c ∈ s, c.toNat < 128) :
    lowerFrom before s = s.map Char.toLower := by
  induction s generalizing before with
  | nil => rfl
  | cons c r ih =>
    simp only [List.mem_cons, forall_eq_or_imp] at h
    simp [lowerFrom, lowerChar, h.1, ih h.2]

theorem lower_of_ascii {s : Text} (h : ∀ c ∈ s, c.toNat < 128) : lower s = s.map Char.toLower :=
  lowerFrom_of_ascii h

end MarkupCode.Text
