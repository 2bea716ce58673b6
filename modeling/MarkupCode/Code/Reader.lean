import MarkupCode.Code.Content

/-!
# Reading code back

A reader of the notation that code is written in. A literal ends at the first double quote that no
backslash takes with it. An expression is a name, an attribute list and, unless the element is void, a
child list with a line for each child; a text is a name and a literal. How far lines are indented does
not matter.
-/

namespace MarkupCode.Code

/-- The inside of a literal as it is written, up to its closing quote, and what follows the quote. -/
def breakLiteral : Text → Option (Text × Text)
  | [] => none
  | '"' :: rest => some ([], rest)
  | '\\' :: c :: rest => (breakLiteral rest).map fun p => ('\\' :: c :: p.1, p.2)
  | c :: rest => (breakLiteral rest).map fun p => (c :: p.1, p.2)

def escapedChar? (c : Char) : Option Char :=
  if c = '\\' then some '\\'
  else if c = '"' then some '"'
  else if c = 'n' then some '\n'
  else if c = 'r' then some '\r'
  else none

/-- The text that the inside of a literal stands for; every backslash begins an escape. -/
def unescape : Text → Option Text
  | [] => some []
  | '\\' :: c :: rest => (escapedChar? c).bind fun c => (unescape rest).map (c :: ·)
  | c :: rest => if c = '\\' then none else (unescape rest).map (c :: ·)

def readLiteral (s : Text) : Option (Text × Text) := do
  let (inside, rest) ← breakLiteral s
  return (← unescape inside, rest)

theorem breakLiteral_escapeChar_append (c : Char) (s : Text) :
    breakLiteral (escapeChar c ++ s) =
      (breakLiteral s).map fun p => (escapeChar c ++ p.1, p.2) := by
  unfold escapeChar
  split
  · simp [breakLiteral]
  split
  · simp [breakLiteral]
  split
  · simp [breakLiteral]
  split
  · simp [breakLiteral]
  · next h1 h2 _ _ =>
    rw [List.singleton_append, breakLiteral.eq_4]
    · simp
    · exact h2
    · exact fun _ _ e => absurd e h1

/-- An escaped text reaches up to the quote that is put behind it. -/
theorem breakLiteral_escape (s rest : Text) :
    breakLiteral (escape s ++ '"' :: rest) = some (escape s, rest) := by
  rw [escape_eq_flatMap]
  induction s with
  | nil => rfl
  | cons c r ih => simp [breakLiteral_escapeChar_append, ih]

theorem unescape_escapeChar_append (c : Char) (s : Text) :
    unescape (escapeChar c ++ s) = (unescape s).map (c :: ·) := by
  unfold escapeChar
  split
  · next h => subst h; simp [unescape, escapedChar?]
  split
  · next h => subst h; simp [unescape, escapedChar?]
  split
  · next h => subst h; simp [unescape, escapedChar?]
  split
  · next h => subst h; simp [unescape, escapedChar?]
  · next h _ _ _ =>
    rw [List.singleton_append, unescape.eq_3]
    · simp [h]
    · exact fun _ _ e => absurd e h

theorem unescape_escape (s : Text) : unescape (escape s) = some s := by
  rw [escape_eq_flatMap]
  induction s with
  | nil => rfl
  | cons c r ih => simp [unescape_escapeChar_append, ih]

def isIdentifierChar (c : Char) : Bool := c ≠ ' ' && c ≠ ';'

def readAttribute (s : Text) : Option ((Text × Option Text) × Text) :=
  let name := s.takeWhile isIdentifierChar
  match s.dropWhile isIdentifierChar with
  | ' ' :: '"' :: rest => (readLiteral rest).map fun p => ((name, some p.1), p.2)
  | rest => some ((name, none), rest)

/-- The attributes of a list that is not empty, from the first one to the closing bracket. -/
def readAttributes : Nat → Text → Option (List (Text × Option Text) × Text)
  | 0, _ => none
  | fuel + 1, s => do
    let (a, rest) ← readAttribute s
    match rest with
    | ' ' :: ']' :: rest => return ([a], rest)
    | ';' :: ' ' :: rest =>
      let (more, rest) ← readAttributes fuel rest
      return (a :: more, rest)
    | _ => none

def readAttributeList (fuel : Nat) : Text → Option (List (Text × Option Text) × Text)
  | '[' :: ']' :: rest => some ([], rest)
  | '[' :: ' ' :: rest => readAttributes fuel rest
  | _ => none

mutual
def readExpression : Nat → Text → Option (Content × Text)
  | fuel + 1, '_' :: s =>
    let name := s.takeWhile (· ≠ ' ')
    match s.dropWhile (· ≠ ' ') with
    | ' ' :: '"' :: rest =>
      if name = "text".toList then (readLiteral rest).map fun p => (.text p.1, p.2) else none
    | ' ' :: rest => do
      let (attrs, rest) ← readAttributeList fuel rest
      match rest with
      | ' ' :: '[' :: ']' :: rest => return (.element name attrs (some []), rest)
      | ' ' :: '[' :: rest =>
        let (children, rest) ← readChildren fuel rest
        return (.element name attrs (some children), rest)
      | rest => return (.element name attrs none, rest)
    | _ => none
  | _, _ => none

/-- Children on lines of their own, up to the closing bracket on the line behind them. -/
def readChildren : Nat → Text → Option (List Content × Text)
  | fuel + 1, '\n' :: s =>
    match s.dropWhile (· = ' ') with
    | ']' :: rest => some ([], rest)
    | s => do
      let (c, rest) ← readExpression fuel s
      let (cs, rest) ← readChildren fuel rest
      return (c :: cs, rest)
  | _, _ => none
end

def readLines : Nat → Text → Option (List Content)
  | 0, _ => none
  | fuel + 1, s => do
    let (c, rest) ← readExpression fuel s
    match rest with
    | [] => return [c]
    | '\n' :: rest => return c :: (← readLines fuel rest)
    | _ => none

/-- The content of the code of a document; the bound is never reached. -/
def read (s : Text) : Option (List Content) :=
  if s = [] then some [] else readLines (s.length + 1) s

end MarkupCode.Code
