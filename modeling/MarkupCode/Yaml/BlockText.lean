import MarkupCode.Yaml.Cursor

/-!
# Block scalars

A literal or folded block: a header that may say how the end is chomped and how deep the block is
indented, and the lines that reach the indentation. A folded block joins neighbouring lines that do
not begin with a blank. By default one final line break is kept; the header may keep all or none.
-/

namespace MarkupCode.Yaml

inductive Chomping
  | strip
  | clip
  | keep
  deriving DecidableEq, Repr

namespace Scan

def chomping? : Option Char → Option Chomping
  | some '+' => some .keep
  | some '-' => some .strip
  | _ => none

def indentDigit? (c : Option Char) : Option Nat :=
  match c with
  | some c => if Text.isAsciiDigit c then some (c.toNat - '0'.toNat) else none
  | none => none

def depthMark : Scan (Option Nat) := do
  match indentDigit? (← peek) with
  | some 0 => malformed
  | some n => skip 1; return some n
  | none => return none

def chompingMark : Scan (Option Chomping) := do
  match chomping? (← peek) with
  | some c => skip 1; return some c
  | none => return none

def blockHeader : Scan (Chomping × Option Nat) := do
  let (chomping, depth) ← do
    match ← chompingMark with
    | some c => pure (c, ← depthMark)
    | none =>
      match ← depthMark with
      | some n => pure ((← chompingMark).getD .clip, some n)
      | none => pure (.clip, none)
  expect endsWord
  emptyLine
  return (chomping, depth)

/-- The breaks in front of the first line that is not empty, and the widest indentation among the
lines up to there. -/
def firstBreaks (widest : Nat) : Nat → Scan (Text × Nat)
  | 0 => return ([], widest)
  | fuel + 1 => do
    match ← peek with
    | some c =>
      if c = ' ' then
        skip 1
        firstBreaks (max widest (← get).column) fuel
      else if isBreak c then
        let b ← lineBreak
        let (more, widest) ← firstBreaks widest fuel
        return (b ++ more, widest)
      else return ([], widest)
    | none => return ([], widest)

def indentTo (column : Nat) : Scan Unit := modify fun k =>
  let spaces := k.rest.takeWhile (· = ' ')
  k.skip (min spaces.length (column - k.column))

/-- The breaks of empty lines, with the next line entered up to a column. -/
def blockBreaks (column : Nat) : Nat → Scan Text
  | 0 => return []
  | fuel + 1 => do
    indentTo column
    if (← peek).any isBreak then
      let b ← lineBreak
      return b ++ (← blockBreaks column fuel)
    else return []

def isBlankStart (c : Option Char) : Bool := c = some ' ' || c = some '\t'

/-- The lines of a block from its first one on; `breaks` are those in front of it. -/
def blockLines (folded : Bool) (chomping : Chomping) (column : Nat) (breaks : Text) :
    Nat → Scan Text
  | 0 => return []
  | fuel + 1 => do
    let starts ← peek
    let line ← span (!isBreak ·)
    let first ← lineBreak
    let more ← blockBreaks column ((← get).rest.length + 1)
    let k ← get
    if k.column = column ∧ k.rest ≠ [] then
      let joins := folded && first = ['\n'] && !isBlankStart starts && !isBlankStart k.peek
      let between : Text := if joins then (if more = [] then [' '] else []) else first
      return breaks ++ line ++ between ++ (← blockLines folded chomping column more fuel)
    else
      let ending := match chomping with
        | .strip => []
        | .clip => first
        | .keep => first ++ more
      return breaks ++ line ++ ending

def blockText (folded : Bool) (indent : Int) : Scan Text := do
  skip 1
  let (chomping, depth) ← blockHeader
  let least := (max (indent + 1) 1).toNat
  let fuel := (← get).rest.length + 1
  let (breaks, column) ← match depth with
    | some n =>
      let column := least + n - 1
      pure (← blockBreaks column fuel, column)
    | none => do
      let (breaks, widest) ← firstBreaks 0 fuel
      pure (breaks, max least widest)
  let k ← get
  if k.column = column ∧ k.rest ≠ [] then
    blockLines folded chomping column breaks fuel
  else return if chomping = .keep then breaks else []

end Scan
end MarkupCode.Yaml
