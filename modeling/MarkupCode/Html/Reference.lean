import MarkupCode.Html.ReferenceTable
import MarkupCode.Html.PageError

/-!
# Character references

A reference names a character by its number or by a name. Running text and attribute values read
references by different rules: running text keeps controls and takes a name whole, an attribute
value drops controls and takes the longest beginning of a name that needs no semicolon. Both read
the numbers 128 to 159 as characters of the Windows code page.
-/

namespace MarkupCode.Html

inductive Reference
  | decimal (digits : Text)
  | hexadecimal (digits : Text)
  /-- A name, and whether a semicolon follows it. -/
  | named (name : Text) (closed : Bool)
  deriving DecidableEq, Repr

def openText? (name : Text) : Option Text :=
  (openNames.find? (·.1.toList = name)).map fun e => [Char.ofNat e.2]

def namedText? (name : Text) : Option Text :=
  (openText? name).or <|
    (closedNames.find? (·.1.toList = name)).map fun e => e.2.map Char.ofNat

def replacement : Char := '\ufffd'

/-- The characters for 128 to 159; five numbers of the range stand for themselves. -/
def windowsPage : List Nat :=
  [0x20ac, 0x81, 0x201a, 0x192, 0x201e, 0x2026, 0x2020, 0x2021, 0x2c6, 0x2030, 0x160, 0x2039,
   0x152, 0x8d, 0x17d, 0x8f, 0x90, 0x2018, 0x2019, 0x201c, 0x201d, 0x2022, 0x2013, 0x2014, 0x2dc,
   0x2122, 0x161, 0x203a, 0x153, 0x9d, 0x17e, 0x178]

/-- The character with a number; the replacement character where there is none. -/
def numberedChar (n : Nat) : Char :=
  if n = 0 then replacement
  else if 0x80 ≤ n ∧ n < 0xa0 then Char.ofNat (windowsPage.getD (n - 0x80) 0)
  else if n.isValidChar then Char.ofNat n
  else replacement

def isForbidden (n : Nat) : Bool :=
  (0x1 ≤ n && n ≤ 0x8) || n == 0xb || (0xe ≤ n && n ≤ 0x1f) || n == 0x7f ||
    (0xfdd0 ≤ n && n ≤ 0xfdef) || n % 0x10000 == 0xfffe || n % 0x10000 == 0xffff

def decimalValue (digits : Text) : Except PageError Nat :=
  if digits.length > Text.maxDigits then .error (.longNumeral digits.length)
  else .ok (Text.numeralValue 10 digits)

/-- The longest beginning of a name, of at most `k` and at least two characters, that needs no
semicolon: its text and what is left of the name. -/
def longestOpen? (name : Text) : Nat → Option (Text × Text)
  | 0 | 1 => none
  | k + 1 =>
    match openText? (name.take (k + 1)) with
    | some t => some (t, name.drop (k + 1))
    | none => longestOpen? name k

namespace Reference

def inText : Reference → Except PageError Text
  | decimal digits => do return [numberedChar (← decimalValue digits)]
  | hexadecimal digits => .ok [numberedChar (Text.numeralValue 16 digits)]
  | named name _ => .ok ((namedText? name).getD ('&' :: name))

def numberInValue (n : Nat) : Text :=
  if n ≤ 0x10ffff && isForbidden n then [] else [numberedChar n]

def namedInValue (name : Text) (closed : Bool) : Text :=
  let ending : Text := if closed then [';'] else []
  let whole := if closed then namedText? name else openText? name
  match whole with
  | some t => t
  | none =>
    match longestOpen? name (if closed then name.length else name.length - 1) with
    | some (t, left) => t ++ left ++ ending
    | none => '&' :: name ++ ending

def inValue : Reference → Except PageError Text
  | decimal digits => do return numberInValue (← decimalValue digits)
  | hexadecimal digits => .ok (numberInValue (Text.numeralValue 16 digits))
  | named name closed => .ok (namedInValue name closed)

end Reference

def isValueNameChar (c : Char) : Bool := c ∉ ['\t', '\n', '\x0c', ' ', '<', '&', '#', ';']

def dropSemicolon : Text → Text
  | ';' :: rest => rest
  | s => s

def valueReference? (s : Text) : Option (Reference × Text) :=
  match s with
  | '#' :: rest =>
    let digits := rest.takeWhile Text.isAsciiDigit
    let hexDigits := (rest.drop 1).takeWhile Text.isHexDigit
    if digits ≠ [] then some (.decimal digits, dropSemicolon (rest.drop digits.length))
    else if rest.head? ∈ [some 'x', some 'X'] ∧ hexDigits ≠ [] then
      some (.hexadecimal hexDigits, dropSemicolon (rest.drop (1 + hexDigits.length)))
    else none
  | _ =>
    let name := (s.takeWhile isValueNameChar).take 32
    let rest := s.drop name.length
    if name = [] then none
    else some (.named name (rest.head? = some ';'), dropSemicolon rest)

theorem length_dropSemicolon_le (s : Text) : (dropSemicolon s).length ≤ s.length := by
  unfold dropSemicolon
  split <;> simp

theorem length_valueReference? {s rest : Text} {r : Reference}
    (h : valueReference? s = some (r, rest)) : rest.length ≤ s.length := by
  have hd (n : Nat) (t : Text) : (dropSemicolon (t.drop n)).length ≤ t.length :=
    Nat.le_trans (length_dropSemicolon_le _) (by simp)
  unfold valueReference? at h
  split at h
  · dsimp only at h
    split at h
    · cases h; exact Nat.le_trans (hd _ _) (by simp)
    · split at h
      · cases h; exact Nat.le_trans (hd _ _) (by simp)
      · cases h
  · dsimp only at h
    split at h
    · cases h
    · cases h; exact hd _ _

def decodeValue : Text → Except PageError Text
  | [] => .ok []
  | c :: rest =>
    if c = '&' then
      match _h : valueReference? rest with
      | some (r, rest') => do
        let t ← r.inValue
        return t ++ (← decodeValue rest')
      | none => (decodeValue rest).map (c :: ·)
    else (decodeValue rest).map (c :: ·)
termination_by s => s.length
decreasing_by
  · have := length_valueReference? _h
    simp; omega
  · simp
  · simp

end MarkupCode.Html
