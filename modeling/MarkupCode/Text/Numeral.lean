import MarkupCode.Text.Digit

/-!
# Reading numerals

A numeral may stand between blanks, carry a sign, and group its digits by single underscores. Decimal
digits of every script count as digits. In the bases two, eight and sixteen the base may be marked in
front of the digits; in base ten the number of digits is limited.
-/

namespace MarkupCode.Text

inductive NumeralFault
  | invalid
  | tooLong (digits : Nat)
  deriving DecidableEq, Repr

/-- A plain blank or digit for those of other scripts; what is neither becomes a question mark. -/
def plainChar (c : Char) : Char :=
  if c.toNat < 127 then c
  else if isBlank c then ' '
  else match decimalValue? c with
    | some v => Nat.digitChar v
    | none => '?'

def isPlainBlank (c : Char) : Bool := c = ' ' || ('\t' ≤ c && c ≤ '\r')

def trimPlain (s : Text) : Text :=
  ((s.dropWhile isPlainBlank).reverse.dropWhile isPlainBlank).reverse

def splitSign : Text → Bool × Text
  | '-' :: rest => (true, rest)
  | '+' :: rest => (false, rest)
  | s => (false, s)

def baseMarks (base : Nat) : List Char :=
  if base = 2 then ['b', 'B']
  else if base = 8 then ['o', 'O']
  else if base = 16 then ['x', 'X']
  else []

/-- Drops the mark of a base, with one underscore that may follow it. -/
def dropBaseMark (base : Nat) (s : Text) : Text :=
  match s with
  | '0' :: c :: rest =>
    if c ∈ baseMarks base then (if rest.head? = some '_' then rest.drop 1 else rest) else s
  | _ => s

def isDigitOf (base : Nat) (c : Char) : Bool :=
  match asciiValue? c with
  | some v => v < base
  | none => false

/-- No underscore begins or ends the text or follows another. -/
def groupsWell : Text → Bool
  | [] => true
  | '_' :: _ => false
  | [_] => true
  | _ :: '_' :: rest => rest ≠ [] && groupsWell rest
  | _ :: rest => groupsWell rest

def readNatural (base : Nat) (s : Text) : Except NumeralFault Nat :=
  let run := s.takeWhile fun c => c = '_' || isDigitOf base c
  let digits := run.filter (· ≠ '_')
  if !groupsWell run then .error .invalid
  else if base = 10 ∧ digits.length > maxDigits then .error (.tooLong digits.length)
  else if run = [] ∨ run.length < s.length then .error .invalid
  else .ok (numeralValue base digits)

def readInteger (base : Nat) (s : Text) : Except NumeralFault Int :=
  let (negative, unsigned) := splitSign (trimPlain (s.map plainChar))
  (readNatural base (dropBaseMark base unsigned)).map fun n => if negative then -(n : Int) else n

end MarkupCode.Text
