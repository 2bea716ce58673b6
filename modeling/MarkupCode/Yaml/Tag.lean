import MarkupCode.Yaml.Stamp
import MarkupCode.Text.Pieces

/-!
# Tags

The tags whose meaning is known, and the tag of a plain scalar, which its notation decides: truth
values, numbers in several notations, dates, the null value, and the keys for merging and for default
values. Everything else is a text. One line break may follow the notation.
-/

namespace MarkupCode.Yaml

inductive Tag
  | null
  | bool
  | int
  | float
  | binary
  | timestamp
  | omap
  | pairs
  | set
  | str
  | seq
  | map
  | merge
  | value
  | unknown
  deriving DecidableEq, Repr

namespace Tag

def known : List (String × Tag) :=
  [("null", null), ("bool", bool), ("int", int), ("float", float), ("binary", binary),
   ("timestamp", timestamp), ("omap", omap), ("pairs", pairs), ("set", set), ("str", str),
   ("seq", seq), ("map", map), ("merge", merge), ("value", value)]

def space : Text := "tag:yaml.org,2002:".toList

def ofText (s : Text) : Tag :=
  ((known.find? fun e => space ++ e.1.toList = s).map Prod.snd).getD unknown

end Tag

namespace PlainForm

def boolWords : List Text :=
  ["yes", "Yes", "YES", "no", "No", "NO", "true", "True", "TRUE", "false", "False", "FALSE", "on",
   "On", "ON", "off", "Off", "OFF"].map String.toList

def nullWords : List Text := ["~", "null", "Null", "NULL", ""].map String.toList

def isGrouped (c : Char) : Bool := Text.isAsciiDigit c || c = '_'

/-- A digit, and digits and underscores behind it. -/
def isDigits (s : Text) : Bool :=
  s.head?.any Text.isAsciiDigit && s.all isGrouped

def unsigned (s : Text) : Text :=
  match s with
  | c :: rest => if c = '+' ∨ c = '-' then rest else s
  | [] => []

def isSixtieth (s : Text) : Bool :=
  match s with
  | [c] => Text.isAsciiDigit c
  | [c, d] => '0' ≤ c && c ≤ '5' && Text.isAsciiDigit d
  | _ => false

def isNonEmptyOf (p : Char → Bool) (s : Text) : Bool := s ≠ [] && s.all p

def isInt (s : Text) : Bool :=
  match unsigned s with
  | [] => false
  | '0' :: rest =>
    match rest with
    | [] => true
    | 'b' :: digits => isNonEmptyOf (fun c => c ∈ ['0', '1', '_']) digits
    | 'x' :: digits => isNonEmptyOf (fun c => Text.isHexDigit c || c = '_') digits
    | digits => isNonEmptyOf (fun c => ('0' ≤ c && c ≤ '7') || c = '_') digits
  | u =>
    match Text.pieces ':' u with
    | first :: parts => isDigits first && parts.all isSixtieth
    | [] => false

/-- A point, digits and underscores behind it, and in some notations an exponent with a sign. -/
def isFraction (exponent : Bool) (s : Text) : Bool :=
  match s with
  | '.' :: rest =>
    match rest.dropWhile isGrouped with
    | [] => true
    | c :: sign :: digits =>
      exponent && c ∈ ['e', 'E'] && sign ∈ ['+', '-'] && isNonEmptyOf Text.isAsciiDigit digits
    | _ => false
  | _ => false

def isFloat (s : Text) : Bool :=
  let u := unsigned s
  let whole := u.takeWhile (· ≠ '.')
  let fraction := u.dropWhile (· ≠ '.')
  if u ∈ [".inf", ".Inf", ".INF"].map String.toList then true
  else if s ∈ [".nan", ".NaN", ".NAN"].map String.toList then true
  else match Text.pieces ':' whole with
    | [first] =>
      if first = [] then
        isFraction true s && (s.drop 1).head?.any Text.isAsciiDigit
      else isDigits first && isFraction true fraction
    | first :: parts => isDigits first && parts.all isSixtieth && isFraction false fraction
    | [] => false

def isStamp (s : Text) : Bool :=
  match Stamp.ofLine? s with
  | some d => d.time.isSome || d.padded
  | none => false

end PlainForm

open PlainForm in
def Tag.ofPlain (s : Text) : Tag :=
  let t := Stamp.dropFinalBreak s
  if t = [] ∧ s ≠ [] then str
  else if t ∈ boolWords then bool
  else if isFloat t then float
  else if isInt t then int
  else if t = ['<', '<'] then merge
  else if t ∈ nullWords then null
  else if isStamp t then timestamp
  else if t = ['='] then value
  else str

end MarkupCode.Yaml
