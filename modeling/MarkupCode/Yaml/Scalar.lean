import MarkupCode.Yaml.Base64
import MarkupCode.Yaml.Graph
import MarkupCode.Decimal.Reading
import MarkupCode.Decimal.Shortest
import MarkupCode.Text.Case

/-!
# Scalar values

What a scalar denotes under its tag. Numbers may hold underscores, integers may be written in four
bases and in base sixty, and decimals in base sixty too. A mapping that holds a default value stands
for it where a scalar is needed.
-/

namespace MarkupCode.Yaml

inductive Scalar
  | null
  | bool (b : Bool)
  | int (n : Int)
  | float (x : Binary64)
  | text (s : Text)
  | bytes (b : Text.Bytes)
  | stamp (d : Stamp)
  deriving DecidableEq, Repr

namespace Scalar

/-- Truth values and numbers are equal when they denote the same number. -/
def number? : Scalar → Option Int
  | bool b => some (if b then 1 else 0)
  | int n => some n
  | float x => x.toInt?
  | _ => none

def sameKey (a b : Scalar) : Bool :=
  match a, b with
  | stamp d, stamp d' => d.sameAs d'
  | _, _ =>
    match a.number?, b.number? with
    | some n, some m => n = m
    | _, _ => a = b

instance : BEq Scalar := ⟨sameKey⟩

def boolValue (s : Text) : Except Error Scalar :=
  let word := Text.lower s
  if word ∈ ["yes", "true", "on"].map String.toList then .ok (bool true)
  else if word ∈ ["no", "false", "off"].map String.toList then .ok (bool false)
  else .error (.notBoolean word)

def readInteger (base : Nat) (s : Text) : Except Error Int :=
  (Text.readInteger base s).mapError fun
    | .invalid => .notInteger base s
    | .tooLong digits => .longNumeral digits

/-- Digits of a number in base sixty, the last one first. -/
def sixties (digits : List Int) : Int := digits.foldr (fun d n => n * 60 + d) 0

def unsignedInteger (s : Text) : Except Error Int :=
  match s with
  | [] => .error .noDigits
  | '0' :: rest =>
    match rest with
    | [] => .ok 0
    | 'b' :: digits => readInteger 2 digits
    | 'x' :: digits => readInteger 16 digits
    | _ => readInteger 8 s
  | _ =>
    if ':' ∈ s then do
      let digits ← (Text.pieces ':' s).mapM (readInteger 10)
      return sixties digits.reverse
    else readInteger 10 s

/-- The sign in front of a number and the rest; a number has at least one character. -/
def signed (s : Text) : Except Error (Bool × Text) :=
  match s with
  | [] => .error .noDigits
  | c :: rest => .ok (c = '-', if c = '-' ∨ c = '+' then rest else s)

def dropGroups (s : Text) : Text := s.filter (· ≠ '_')

def intValue (s : Text) : Except Error Scalar := do
  let (negative, unsigned) ← signed (dropGroups s)
  let n ← unsignedInteger unsigned
  return int (if negative then -n else n)

def readDecimal (s : Text) : Except Error Binary64 :=
  match Binary64.ofText? s with
  | some x => .ok x
  | none => .error (.notDecimal s)

def decimalSixties (sum : Binary64) (power : Nat) : List Binary64 → Except Error Binary64
  | [] => .ok sum
  | d :: ds =>
    match Binary64.ofInt? (60 ^ power) with
    | some p => decimalSixties (sum.add (d.mul p)) (power + 1) ds
    | none => .error .tooLargeForDecimal

def unsignedDecimal (s : Text) : Except Error Binary64 :=
  if s = ".inf".toList then .ok (.infinity false)
  else if s = ".nan".toList then .ok .nan
  else if ':' ∈ s then do
    let digits ← (Text.pieces ':' s).mapM readDecimal
    decimalSixties (.zero false) 0 digits.reverse
  else readDecimal s

def floatValue (s : Text) : Except Error Scalar := do
  let (negative, unsigned) ← signed (Text.lower (dropGroups s))
  let x ← unsignedDecimal unsigned
  return float (if negative then x.neg else x)

def binaryValue (s : Text) : Except Error Scalar :=
  if s.all (·.toNat < 0x80) then
    match Base64.decode s with
    | some b => .ok (bytes b)
    | none => .error .malformed
  else .error .malformed

def stampValue (s : Text) : Except Error Scalar :=
  match Stamp.ofText? s with
  | none => .error .notDate
  | some d => do
    d.check.mapError .badDate
    return stamp d

def shown : Scalar → Text
  | null => "None".toList
  | bool b => (if b then "True" else "False").toList
  | int n =>
    if (Text.numeral n.natAbs).length ≤ Text.maxDigits then Text.signedNumeral n
    else "<unprintable int object>".toList
  | float x => x.toText
  | text s => Text.quoted s
  | bytes b => Text.quotedBytes b
  | stamp d => d.shown.toList

def isFalsy : Scalar → Bool
  | null => true
  | bool b => !b
  | int n => n = 0
  | float x => x.isZero
  | text s => s = []
  | bytes b => b = []
  | stamp _ => false

end Scalar

/-- The text of a node that has to be a scalar, following default values at most `fuel` times. -/
def scalarText (g : Graph) (id : Nat) : Nat → Except Error Text
  | 0 => .error .malformed
  | fuel + 1 =>
    match (g.node id).content with
    | .scalar s => .ok s
    | .sequence _ => .error .malformed
    | .mapping entries =>
      match entries.find? fun e => (g.node e.1).tag = .value with
      | some e => scalarText g e.2 fuel
      | none => .error .malformed

def scalarValue (g : Graph) (id : Nat) : Except Error Scalar := do
  let s ← scalarText g id (g.size + 1)
  match (g.node id).tag with
  | .null => return .null
  | .bool => Scalar.boolValue s
  | .int => Scalar.intValue s
  | .float => Scalar.floatValue s
  | .binary => Scalar.binaryValue s
  | .timestamp =>
    match (g.node id).content with
    | .scalar s => Scalar.stampValue s
    | _ => throw .dateOfCollection
  | .str => return .text s
  | _ => throw .malformed

end MarkupCode.Yaml
