import MarkupCode.Text.DigitTable
import MarkupCode.Text.Blank

/-!
# Digits and numerals

A numeral is read by Horner's rule over the values of its digits. Decimal digits of every script
have a value, and `numeral` writes a number in plain decimal digits.
-/

namespace MarkupCode.Text

def isAsciiDigit (c : Char) : Bool := '0' ≤ c && c ≤ '9'

def isAsciiLetter (c : Char) : Bool := ('a' ≤ c && c ≤ 'z') || ('A' ≤ c && c ≤ 'Z')

def isHexDigit (c : Char) : Bool :=
  isAsciiDigit c || ('a' ≤ c && c ≤ 'f') || ('A' ≤ c && c ≤ 'F')

def decimalValue? (c : Char) : Option Nat :=
  (decimalDigits.find? (·.contains c.toNat)).map fun i => (c.toNat - i.1) % 10

def asciiValue? (c : Char) : Option Nat :=
  if isAsciiDigit c then some (c.toNat - '0'.toNat)
  else if 'a' ≤ c && c ≤ 'z' then some (c.toNat - 'a'.toNat + 10)
  else if 'A' ≤ c && c ≤ 'Z' then some (c.toNat - 'A'.toNat + 10)
  else none

def horner (base : Nat) (digits : List Nat) : Nat := digits.foldl (fun n d => n * base + d) 0

def numeralValue (base : Nat) (s : Text) : Nat := horner base (s.filterMap asciiValue?)

/-- The greatest number of decimal digits that is read as a number. -/
def maxDigits : Nat := 4300

def longNumeralMessage (digits : Nat) : String :=
  "Exceeds the limit (4300 digits) for integer string conversion: value has " ++ toString digits ++
    " digits; use sys.set_int_max_str_digits() to increase the limit"

def numeral (n : Nat) : Text := Nat.toDigits 10 n

def signedNumeral (n : Int) : Text :=
  if n < 0 then '-' :: numeral n.natAbs else numeral n.natAbs

end MarkupCode.Text
