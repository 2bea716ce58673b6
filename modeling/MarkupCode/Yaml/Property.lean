import MarkupCode.Yaml.Cursor
import MarkupCode.Text.Utf8

/-!
# Anchors, tags and directives

The names in front of a node, and the directives in front of a document. A tag has a handle, which a
directive may define, and a suffix in which characters may be given by the bytes of their numbers.
-/

namespace MarkupCode.Yaml

/-- A tag as written: with a handle, or without one and complete. -/
structure TagName where
  handle : Option Text
  suffix : Text
  deriving DecidableEq, Repr

inductive Directive
  | version (major : Nat)
  | tag (handle : Text) (expansion : Text)
  | unknown
  deriving DecidableEq, Repr

namespace Scan

def anchorName : Scan Text := do
  skip 1
  let name ← span isWordChar
  if name = [] then malformed
  expect fun c => endsItem c || c.any (· ∈ ['?', ':', ',', ']', '}', '%', '@', '`'])
  return name

def hexByte : Scan UInt8 := do
  let k ← get
  let digits := k.rest.take 2
  if digits.length = 2 ∧ digits.all Text.isHexDigit then
    skip 2
    return UInt8.ofNat (Text.numeralValue 16 digits)
  else malformed

def escapedBytes : Nat → Scan Text.Bytes
  | 0 => return []
  | fuel + 1 => do
    if (← peek) = some '%' then
      skip 1
      let b ← hexByte
      return b :: (← escapedBytes fuel)
    else return []

def isUriChar (c : Char) : Bool :=
  isWordChar c || c ∈ [';', '/', '?', ':', '@', '&', '=', '+', '$', ',', '.', '!', '~', '*', '\'',
    '(', ')', '[', ']']

def uriRun : Nat → Scan Text
  | 0 => return []
  | fuel + 1 => do
    let run ← span isUriChar
    if (← peek) = some '%' then
      match Text.decode (← escapedBytes (← get).rest.length) with
      | .ok s => return run ++ s ++ (← uriRun fuel)
      | .error _ => malformed
    else return run

def uri : Scan Text := do
  let first ← peek
  if first.any fun c => isUriChar c || c = '%' then uriRun (← get).rest.length else malformed

/-- A handle: an exclamation mark, or a word between two of them. -/
def handle : Scan Text := do
  if (← peek) ≠ some '!' then malformed
  skip 1
  if (← peek) = some ' ' then return ['!']
  let word ← span isWordChar
  if (← peek) ≠ some '!' then malformed
  skip 1
  return '!' :: word ++ ['!']

def tagBody : Scan TagName := do
  match ← peek 1 with
  | some '<' =>
    skip 2
    let suffix ← uri
    if (← peek) ≠ some '>' then malformed
    skip 1
    return ⟨none, suffix⟩
  | c =>
    if endsItem c then
      skip 1
      return ⟨none, ['!']⟩
    else
      let word := ((← get).rest.drop 1).takeWhile fun c => !endsWord (some c)
      if '!' ∈ word then
        let h ← handle
        return ⟨some h, ← uri⟩
      else
        skip 1
        return ⟨some ['!'], ← uri⟩

def tagName : Scan TagName := do
  let tag ← tagBody
  expect endsWord
  return tag

def versionNumber : Scan Nat := do
  let digits ← span Text.isAsciiDigit
  if digits = [] then malformed
  if digits.length > Text.maxDigits then throw (.longNumeral digits.length)
  return Text.numeralValue 10 digits

def directiveBody : Scan Directive := do
  let name ← span isWordChar
  if name = [] then malformed
  expect endsWord
  if name = "YAML".toList then
    modify (·.skipSpaces)
    let major ← versionNumber
    if (← peek) ≠ some '.' then malformed
    skip 1
    let _ ← versionNumber
    expect endsWord
    return .version major
  else if name = "TAG".toList then
    modify (·.skipSpaces)
    let h ← handle
    if (← peek) ≠ some ' ' then malformed
    modify (·.skipSpaces)
    let expansion ← uri
    expect endsWord
    return .tag h expansion
  else
    let _ ← span (!isBreak ·)
    return .unknown

def directive : Scan Directive := do
  skip 1
  let d ← directiveBody
  emptyLine
  return d

end Scan
end MarkupCode.Yaml
