import MarkupCode.Options.Basic
import MarkupCode.Options.Datum
import MarkupCode.Text.Blank
import MarkupCode.Text.Numeral

/-!
# Checking options

The two options accept values of several sorts: a size may be written as a text or a whole number of
any sort, a switch as a number or one of a dozen words. Names other than theirs are refused. All
faults are reported, those of the two options first and then those of the other names in order.
`resolve` lays the settings of a command line over options and checks the outcome again.
-/

namespace MarkupCode.Options

abbrev Data := List (OptionKey × Datum)

def indentKey : OptionKey := .name "indent_size".toList

def bodyKey : OptionKey := .name "body_only".toList

/-- Blanks of Unicode, without the information separators. -/
def isSpaceChar (c : Char) : Bool := Text.isBlank c && !(0x1c ≤ c.toNat && c.toNat ≤ 0x1f)

def trim (s : Text) : Text :=
  ((s.dropWhile isSpaceChar).reverse.dropWhile isSpaceChar).reverse

def isZeroFraction (s : Text) : Bool :=
  match s with
  | [] => true
  | '.' :: zeros => zeros ≠ [] && zeros.all (· = '0')
  | _ => false

def dropZeroFraction (s : Text) : Text :=
  if isZeroFraction (s.dropWhile (· ≠ '.')) then s.takeWhile (· ≠ '.') else s

/-- Drops the zeros in front with the underscores among them. The last of these stays where nothing or a
point follows. -/
def dropZeros (s : Text) : Text :=
  match s with
  | '0' :: _ =>
    let (zeros, rest) := s.span fun c => c = '0' || c = '_'
    if rest.head? ∈ [none, some '.'] then zeros.drop (zeros.length - 1) ++ rest else rest
  | _ => s

def dropUnderscores (s : Text) : Text := if Text.groupsWell s then s.filter (· ≠ '_') else s

def tidiedDigits (s : Text) : Text := dropUnderscores (dropZeroFraction (dropZeros s))

/-- A numeral without its blanks, its plus sign, its zero fraction and what only groups its digits. -/
def tidied (s : Text) : Text :=
  match trim s with
  | '-' :: digits => '-' :: tidiedDigits digits
  | '+' :: '-' :: digits => '+' :: '-' :: digits
  | '+' :: digits => tidiedDigits digits
  | digits => tidiedDigits digits

/-- Only the number zero begins with a zero. Digits beyond the limit are told of before what follows them. -/
def readPlainNatural (limit : Nat) (s : Text) : Except OptionFault Nat :=
  let run := s.takeWhile Text.isAsciiDigit
  if run = [] ∨ run.head? = some '0' ∧ s ≠ ['0'] then .error .integerUnparsable
  else if limit < run.length then .error .integerTooLarge
  else if run.length < s.length then .error .integerUnparsable
  else .ok (Text.numeralValue 10 run)

/-- The limit counts the sign too. -/
def readPlainInteger (s : Text) : Except OptionFault Int :=
  match s with
  | '-' :: digits => (readPlainNatural (Text.maxDigits - 1) digits).map fun n => -(n : Int)
  | digits => (readPlainNatural Text.maxDigits digits).map Int.ofNat

/-- A text that is no plain integer may be one when it is tidied; then its length is no fault of its own. -/
def integerOfText (s : Text) : Except OptionFault Int :=
  match readPlainInteger s with
  | .error .integerUnparsable => (readPlainInteger (tidied s)).mapError fun _ => .integerUnparsable
  | plain => plain

def integerOfFloat (x : Binary64) : Except OptionFault Int :=
  match x with
  | .finite _ _ _ =>
    match x.toInt? with
    | some n => if n.natAbs < 0x8000000000000000 then .ok n else .error .integerTooLarge
    | none => .error .integerFraction
  | _ => .error .integerNotFinite

def integer : Datum → Except OptionFault Int
  | .int n => .ok n
  | .bool b => .ok (if b then 1 else 0)
  | .float x => integerOfFloat x
  | .text s => integerOfText s
  | .bytes b =>
    match Text.decode b with
    | .ok s => integerOfText s
    | .error _ => .error .integerUnparsable
  | _ => .error .integerType

def size (d : Datum) : Except OptionFault { n : Nat // 0 < n } := do
  let n ← integer d
  if h : 0 < n.toNat then .ok ⟨n.toNat, h⟩ else .error .belowOne

def yesWords : List Text := ["1", "on", "t", "true", "y", "yes"].map String.toList

def noWords : List Text := ["0", "off", "f", "false", "n", "no"].map String.toList

def switchOfText (s : Text) : Except OptionFault Bool :=
  if s.map Char.toLower ∈ yesWords then .ok true
  else if s.map Char.toLower ∈ noWords then .ok false
  else .error .booleanUnparsable

/-- A switch given as an integer; integers beyond 64 bits are of the wrong type. -/
def switchOfInteger (n : Int) : Except OptionFault Bool :=
  if n = 0 then .ok false
  else if n = 1 then .ok true
  else if -0x8000000000000000 ≤ n ∧ n < 0x8000000000000000 then .error .booleanUnparsable
  else .error .booleanType

def switch : Datum → Except OptionFault Bool
  | .bool b => .ok b
  | .int n => switchOfInteger n
  | .float x =>
    match integerOfFloat x with
    | .ok n => switchOfInteger n
    | .error _ => .error .booleanType
  | .text s => switchOfText s
  | .bytes b =>
    match Text.decode b with
    | .ok s => switchOfText s
    | .error _ => .error .booleanUnparsable
  | _ => .error .booleanType

def field {α : Type} (check : Datum → Except OptionFault α) (data : Data) (key : OptionKey)
    (default : α) : Except OptionDetail α :=
  match data.lookup key with
  | none => .ok default
  | some d => (check d).mapError (⟨key, ·⟩)

def unknownKeys (data : Data) : List OptionDetail :=
  data.filterMap fun (key, _) =>
    if key = indentKey ∨ key = bodyKey then none
    else match key with
      | .name _ => some ⟨key, .unknownName⟩
      | _ => some ⟨key, .invalidKey⟩

def faults {α : Type} : Except OptionDetail α → List OptionDetail
  | .ok _ => []
  | .error d => [d]

def validate (data : Data) : Except (List OptionDetail) Options :=
  let indent := field size data indentKey ⟨4, usual_pos⟩
  let body := field switch data bodyKey false
  match indent, body, unknownKeys data with
  | .ok n, .ok b, [] => .ok ⟨n.1, b, n.2⟩
  | _, _, others => .error (faults indent ++ faults body ++ others)

def overlaid (o : Options) (indent : Option Int) (bodyOnly : Bool) : Data :=
  [(indentKey, .int (indent.getD o.indentSize)), (bodyKey, .bool (bodyOnly || o.bodyOnly))]

def resolve (o : Options) (indent : Option Int) (bodyOnly : Bool) :
    Except (List OptionDetail) Options :=
  validate (overlaid o indent bodyOnly)

end MarkupCode.Options
