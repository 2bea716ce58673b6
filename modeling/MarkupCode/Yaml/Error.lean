import MarkupCode.Text.Quoted

/-!
# Faults of a data document

A document may break the rules of its notation or use what this reader does not know: it is
malformed. Apart from that a scalar that is taken for a number, a date or a truth value may fail to
be one, each in its own way.
-/

namespace MarkupCode.Yaml

inductive DateFault
  | year
  | month
  | day
  | hour
  | minute
  | second
  /-- An offset of a day or more, in minutes. -/
  | offset (minutes : Int)
  deriving DecidableEq, Repr

inductive Error
  | malformed
  | longNumeral (digits : Nat)
  | notInteger (base : Nat) (literal : Text)
  | notDecimal (literal : Text)
  | noDigits
  | tooLargeForDecimal
  | notBoolean (word : Text)
  | notDate
  /-- A collection where the text of a date is needed. -/
  | dateOfCollection
  | badDate (fault : DateFault)
  /-- A character number beyond the last character; `huge` when it needs more than 31 bits. -/
  | characterNumber (huge : Bool)
  deriving DecidableEq, Repr

/-- A span of time of some minutes as whole days and the seconds left, which are never negative. -/
def spanText (minutes : Int) : String :=
  let seconds := minutes * 60
  let days := Int.fdiv seconds 86400
  let left := Int.fmod seconds 86400
  let parts := (if days = 0 then [] else ["days=" ++ toString days]) ++
    (if left = 0 then [] else ["seconds=" ++ toString left])
  "datetime.timedelta(" ++ (if parts = [] then "0" else ", ".intercalate parts) ++ ")"

def DateFault.message : DateFault → String
  | year => "year 0 is out of range"
  | month => "month must be in 1..12"
  | day => "day is out of range for month"
  | hour => "hour must be in 0..23"
  | minute => "minute must be in 0..59"
  | second => "second must be in 0..59"
  | offset minutes =>
    "offset must be a timedelta strictly between -timedelta(hours=24) and timedelta(hours=24), not "
      ++ spanText minutes ++ "."

def Error.message : Error → String
  | malformed => ""
  | longNumeral digits => Text.longNumeralMessage digits
  | notInteger base literal =>
    "invalid literal for int() with base " ++ toString base ++ ": " ++
      String.ofList ((Text.quoted literal).take 200)
  | notDecimal literal => "could not convert string to float: " ++ String.ofList (Text.quoted literal)
  | noDigits => "string index out of range"
  | tooLargeForDecimal => "int too large to convert to float"
  | notBoolean word => String.ofList (Text.quoted word)
  | notDate => "'NoneType' object has no attribute 'groupdict'"
  | dateOfCollection => "expected string or bytes-like object, got 'list'"
  | badDate fault => fault.message
  | characterNumber huge =>
    if huge then "Python int too large to convert to C int"
    else "chr() arg not in range(0x110000)"

end MarkupCode.Yaml
