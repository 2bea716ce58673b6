import MarkupCode.Decimal.Binary64
import MarkupCode.Text.Numeral

/-!
# Reading decimals

A decimal is a sign, digits with a point somewhere in or around them, and an exponent behind the
letter `e`; infinities and the number that is none are spelled as words. It is read as the nearest
binary floating-point number.
-/

namespace MarkupCode.Binary64

def unsignedOfText? (negative : Bool) (s : Text) : Option Binary64 :=
  let mantissa := s.takeWhile fun c => c ≠ 'e' && c ≠ 'E'
  let exponentPart := (s.dropWhile fun c => c ≠ 'e' && c ≠ 'E').drop 1
  let whole := mantissa.takeWhile (· ≠ '.')
  let fraction := (mantissa.dropWhile (· ≠ '.')).drop 1
  let (exponentNegative, exponentDigits) := Text.splitSign exponentPart
  let marked := mantissa.length < s.length
  if (whole ++ fraction) = [] ∨ !(whole ++ fraction).all Text.isAsciiDigit ∨
      !exponentDigits.all Text.isAsciiDigit ∨ (marked ∧ exponentDigits = []) then none
  else
    let exponent : Int := Text.numeralValue 10 exponentDigits
    let digits := Text.numeralValue 10 (whole ++ fraction)
    some (ofDecimal negative digits
      ((if exponentNegative then -exponent else exponent) - fraction.length))

def ofText? (s : Text) : Option Binary64 :=
  let (negative, unsigned) := Text.splitSign (Text.trimPlain (s.map Text.plainChar))
  let word := unsigned.map Char.toLower
  if word = "inf".toList ∨ word = "infinity".toList then some (infinity negative)
  else if word = "nan".toList then some nan
  else unsignedOfText? negative unsigned

end MarkupCode.Binary64
