import MarkupCode.Yaml.Error
import MarkupCode.Text.Blank

/-!
# Reading a document from front to back

A cursor is a place in the text: what is left of it, how many characters were read, and the line and
column. A byte-order mark takes no column. Readers move the cursor and may fail; looking ahead beyond
the end finds nothing, which is treated like a line end where a class of characters asks for it.
-/

namespace MarkupCode.Yaml

structure Cursor where
  rest : Text
  index : Nat := 0
  line : Nat := 0
  column : Nat := 0

def isBreak (c : Char) : Bool := c ∈ ['\r', '\n', '\u0085', '\u2028', '\u2029']

def endsLine : Option Char → Bool
  | none => true
  | some c => isBreak c

def endsWord : Option Char → Bool
  | some c => c = ' ' || isBreak c
  | none => true

/-- A blank, a line end or the end of the text. -/
def endsItem : Option Char → Bool
  | some c => c = ' ' || c = '\t' || isBreak c
  | none => true

def isWordChar (c : Char) : Bool :=
  Text.isAsciiLetter c || Text.isAsciiDigit c || c = '-' || c = '_'

def isAllowed (c : Char) : Bool :=
  c ∈ ['\t', '\n', '\r', '\u0085'] || (0x20 ≤ c.toNat && c.toNat ≤ 0x7e) ||
    (0xa0 ≤ c.toNat && c.toNat ≠ 0xfffe && c.toNat ≠ 0xffff)

namespace Cursor

def peek (k : Cursor) (ahead : Nat := 0) : Option Char := k.rest[ahead]?

def at? (k : Cursor) (c : Char) : Bool := k.peek = some c

def step (k : Cursor) : Cursor :=
  match k.rest with
  | [] => k
  | c :: rest =>
    if isBreak c && !(c = '\r' && rest.head? = some '\n') then
      { rest, index := k.index + 1, line := k.line + 1, column := 0 }
    else
      { rest, index := k.index + 1, line := k.line,
        column := if c = '\ufeff' then k.column else k.column + 1 }

def skip (k : Cursor) : Nat → Cursor
  | 0 => k
  | n + 1 => k.step.skip n

def span (k : Cursor) (p : Char → Bool) : Text × Cursor :=
  let run := k.rest.takeWhile p
  (run, k.skip run.length)

def skipSpaces (k : Cursor) : Cursor := (k.span (· = ' ')).2

def skipComment (k : Cursor) : Cursor :=
  if k.at? '#' then (k.span (!isBreak ·)).2 else k

/-- The line break that stands here, if any: two of the five kinds keep their form. -/
def lineBreak (k : Cursor) : Text × Cursor :=
  match k.peek with
  | some c =>
    if c = '\u2028' ∨ c = '\u2029' then ([c], k.step)
    else if c = '\r' ∧ k.peek 1 = some '\n' then (['\n'], k.skip 2)
    else if isBreak c then (['\n'], k.step)
    else ([], k)
  | none => ([], k)

/-- A document separator or terminator stands here; the column is not looked at. -/
def atMarker (k : Cursor) (c : Char) : Bool :=
  k.rest.take 3 = [c, c, c] && endsItem (k.peek 3)

def atSeparator (k : Cursor) : Bool := k.atMarker '-' || k.atMarker '.'

end Cursor

abbrev Scan := StateT Cursor (Except Error)

namespace Scan

def malformed {α : Type} : Scan α := throw .malformed

def peek (ahead : Nat := 0) : Scan (Option Char) := do return (← get).peek ahead

def skip (n : Nat) : Scan Unit := modify (·.skip n)

def span (p : Char → Bool) : Scan Text := modifyGet (·.span p)

def lineBreak : Scan Text := modifyGet (·.lineBreak)

def expect (p : Option Char → Bool) : Scan Unit := do
  if p (← peek) then return else malformed

/-- The rest of a line that may hold spaces and a comment only, with its line break. -/
def emptyLine : Scan Unit := do
  modify fun k => k.skipSpaces.skipComment
  expect endsLine
  let _ ← lineBreak

end Scan
end MarkupCode.Yaml
