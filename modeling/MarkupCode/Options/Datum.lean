import MarkupCode.Decimal.Binary64
import MarkupCode.Text.Utf8

/-!
# Raw option values

Options are given as named values of any sort. A name need not be a text: it may be a number, or
something known only by how it is shown. A fault in the options is told by the name that it concerns
and its cause.
-/

namespace MarkupCode

/-- A raw value; `other` stands for lists, mappings, dates and everything else. -/
inductive Datum
  | null
  | bool (b : Bool)
  | int (n : Int)
  | float (x : Binary64)
  | text (s : Text)
  | bytes (b : Text.Bytes)
  | other
  deriving DecidableEq, Repr

inductive OptionKey
  | name (s : Text)
  | number (n : Int)
  | shown (s : Text)
  deriving DecidableEq, Repr

inductive OptionFault
  | integerUnparsable
  | integerTooLarge
  | integerFraction
  | integerNotFinite
  | integerType
  | belowOne
  | booleanUnparsable
  | booleanType
  | unknownName
  | invalidKey
  deriving DecidableEq, Repr

namespace OptionFault

def code : OptionFault → String
  | integerUnparsable => "int_parsing"
  | integerTooLarge => "int_parsing_size"
  | integerFraction => "int_from_float"
  | integerNotFinite => "finite_number"
  | integerType => "int_type"
  | belowOne => "greater_than_equal"
  | booleanUnparsable => "bool_parsing"
  | booleanType => "bool_type"
  | unknownName => "extra_forbidden"
  | invalidKey => "invalid_key"

def message : OptionFault → String
  | integerUnparsable =>
    "Input should be a valid integer, unable to parse string as an integer"
  | integerTooLarge => "Unable to parse input string as an integer, exceeded maximum size"
  | integerFraction =>
    "Input should be a valid integer, got a number with a fractional part"
  | integerNotFinite => "Input should be a finite number"
  | integerType => "Input should be a valid integer"
  | belowOne => "Input should be greater than or equal to 1"
  | booleanUnparsable => "Input should be a valid boolean, unable to interpret input"
  | booleanType => "Input should be a valid boolean"
  | unknownName => "Extra inputs are not permitted"
  | invalidKey => "Keys should be strings"

end OptionFault

structure OptionDetail where
  key : OptionKey
  fault : OptionFault
  deriving DecidableEq, Repr

end MarkupCode
