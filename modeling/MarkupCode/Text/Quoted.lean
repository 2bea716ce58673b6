import MarkupCode.Text.UnprintableTable
import MarkupCode.Text.Digit
import MarkupCode.Text.Utf8

/-!
# Quoted texts

Messages show a text between quotes: apostrophes, or double quotes when the text holds an apostrophe
and no double quote. The quote in use and the backslash are escaped, line feed, carriage return and
tab are named, and every other unprintable character is shown by its number.
-/

namespace MarkupCode.Text

def isPrintable (c : Char) : Bool :=
  if c.toNat < 0x7f then 0x20 ≤ c.toNat else !inClass unprintable c

def hexDigits : Nat → Nat → Text
  | 0, _ => []
  | width + 1, n => hexDigits width (n / 16) ++ [Nat.digitChar (n % 16)]

def quoteFor (s : Text) : Char := if '\'' ∈ s ∧ '"' ∉ s then '"' else '\''

def quoteChar (quote c : Char) : Text :=
  if c = quote ∨ c = '\\' then ['\\', c]
  else if c = '\n' then ['\\', 'n']
  else if c = '\r' then ['\\', 'r']
  else if c = '\t' then ['\\', 't']
  else if isPrintable c then [c]
  else if c.toNat < 0x100 then '\\' :: 'x' :: hexDigits 2 c.toNat
  else if c.toNat < 0x10000 then '\\' :: 'u' :: hexDigits 4 c.toNat
  else '\\' :: 'U' :: hexDigits 8 c.toNat

def quoted (s : Text) : Text :=
  quoteFor s :: s.flatMap (quoteChar (quoteFor s)) ++ [quoteFor s]

/-- Bytes are shown like characters, those beyond ASCII by their numbers, behind the letter `b`. -/
def quotedBytes (bytes : Bytes) : Text :=
  let s := bytes.map fun b => Char.ofNat b.toNat
  let shown (c : Char) : Text :=
    if c.toNat < 0x80 then quoteChar (quoteFor s) c else '\\' :: 'x' :: hexDigits 2 c.toNat
  'b' :: quoteFor s :: s.flatMap shown ++ [quoteFor s]

end MarkupCode.Text
