import MarkupCode.Yaml.Cursor

/-!
# Quoted scalars

A scalar between quotes. Between apostrophes an apostrophe is written twice; between double quotes a
backslash escapes. Line breaks fold: one becomes a space, and of several the first is dropped. The
blanks around a break are dropped, and a document separator may not begin a line.
-/

namespace MarkupCode.Yaml

def escapes : List (Char × Char) :=
  [('0', '\x00'), ('a', '\x07'), ('b', '\x08'), ('t', '\t'), ('\t', '\t'), ('n', '\n'),
   ('v', '\x0b'), ('f', '\x0c'), ('r', '\r'), ('e', '\x1b'), (' ', ' '), ('"', '"'), ('\\', '\\'),
   ('/', '/'), ('N', '\u0085'), ('_', '\u00a0'), ('L', '\u2028'), ('P', '\u2029')]

def escapeWidths : List (Char × Nat) := [('x', 2), ('u', 4), ('U', 8)]

namespace Scan

/-- Line breaks with the blanks in front of each, where no separator may stand. -/
def quotedBreaks : Nat → Scan Text
  | 0 => return []
  | fuel + 1 => do
    if (← get).atSeparator then malformed
    let _ ← span fun c => c = ' ' || c = '\t'
    if (← peek).any isBreak then
      let b ← lineBreak
      return b ++ (← quotedBreaks fuel)
    else return []

def moreBreaks : Scan Text := do quotedBreaks ((← get).rest.length + 1)

def numberedEscape (width : Nat) : Scan Text := do
  let digits := (← get).rest.take width
  if digits.length < width ∨ !digits.all Text.isHexDigit then malformed
  let n := Text.numeralValue 16 digits
  if n ≥ 0x80000000 then throw (.characterNumber true)
  if n > 0x10ffff then throw (.characterNumber false)
  skip width
  return [if n.isValidChar then Char.ofNat n else '\ufffd']

def escape : Scan Text := do
  match ← peek with
  | none => malformed
  | some c =>
    match escapes.lookup c, escapeWidths.lookup c with
    | some x, _ => skip 1; return [x]
    | none, some width => skip 1; numberedEscape width
    | none, none =>
      if isBreak c then
        let _ ← lineBreak
        moreBreaks
      else malformed

def isQuotedChar (c : Char) : Bool :=
  c ∉ ['\'', '"', '\\', ' ', '\t'] && !isBreak c

/-- Everything up to a blank, a line end or the closing quote. -/
def quotedWord (double : Bool) : Nat → Scan Text
  | 0 => return []
  | fuel + 1 => do
    let run ← span isQuotedChar
    match ← peek with
    | some '\'' =>
      if double then
        skip 1
        return run ++ '\'' :: (← quotedWord double fuel)
      else if (← peek 1) = some '\'' then
        skip 2
        return run ++ '\'' :: (← quotedWord double fuel)
      else return run
    | some '"' =>
      if double then return run
      else
        skip 1
        return run ++ '"' :: (← quotedWord double fuel)
    | some '\\' =>
      skip 1
      let s ← if double then escape else pure ['\\']
      return run ++ s ++ (← quotedWord double fuel)
    | _ => return run

def quotedSpaces : Scan Text := do
  let blanks ← span fun c => c = ' ' || c = '\t'
  match ← peek with
  | none => malformed
  | some c =>
    if isBreak c then
      let first ← lineBreak
      let more ← moreBreaks
      if first ≠ ['\n'] then return first ++ more
      else return if more = [] then [' '] else more
    else return blanks

def quotedRest (double : Bool) : Nat → Scan Text
  | 0 => malformed
  | fuel + 1 => do
    if (← peek) = some (if double then '"' else '\'') then
      skip 1
      return []
    else
      let spaces ← quotedSpaces
      let word ← quotedWord double ((← get).rest.length + 1)
      return spaces ++ word ++ (← quotedRest double fuel)

def quotedText (double : Bool) : Scan Text := do
  skip 1
  let word ← quotedWord double ((← get).rest.length + 1)
  return word ++ (← quotedRest double ((← get).rest.length + 1))

end Scan
end MarkupCode.Yaml
