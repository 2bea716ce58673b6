import MarkupCode.Yaml.Cursor

/-!
# Plain scalars

A scalar without quotes ends at a comment, at a colon that a blank follows, and inside brackets at
their marks. It may go on over lines that are indented enough; the breaks between them fold, and a
document separator ends it.
-/

namespace MarkupCode.Yaml

def endsPlain (inFlow : Bool) : Text → Bool
  | [] => true
  | c :: rest =>
    endsItem (some c) ||
      (c = ':' && (endsItem rest.head? ||
        (inFlow && rest.head?.any (· ∈ [',', '[', ']', '{', '}'])))) ||
      (inFlow && c ∈ [',', '?', '[', ']', '{', '}'])

def plainLength (inFlow : Bool) : Text → Nat
  | [] => 0
  | c :: rest => if endsPlain inFlow (c :: rest) then 0 else plainLength inFlow rest + 1

namespace Scan

/-- The breaks of empty lines behind a first break, with the spaces in front of the next word; none
when a document separator stands there. -/
def plainBreaks : Nat → Scan (Option Text)
  | 0 => return some []
  | fuel + 1 => do
    match ← peek with
    | some c =>
      if c = ' ' then
        skip 1
        plainBreaks fuel
      else if isBreak c then
        let b ← lineBreak
        if (← get).atSeparator then return none
        return (← plainBreaks fuel).map (b ++ ·)
      else return some []
    | none => return some []

/-- What stands between two words of a plain scalar, and whether a line break is in it; none where
the scalar ends. -/
def plainSpaces : Scan (Option Text × Bool) := do
  let blanks ← span (· = ' ')
  if (← peek).any isBreak then
    let first ← lineBreak
    if (← get).atSeparator then return (none, true)
    match ← plainBreaks ((← get).rest.length + 1) with
    | none => return (none, true)
    | some more =>
      let fold : Text := if first ≠ ['\n'] then first else if more = [] then [' '] else []
      return (some (fold ++ more), true)
  else return (if blanks = [] then none else some blanks, false)

/-- The words of a plain scalar, and whether it ended at the beginning of a line. `before` stands in
front of the next word, `broken` tells whether it holds a line break. -/
def plainWords (inFlow : Bool) (column : Int) (before : Text) (broken : Bool) :
    Nat → Scan (Text × Bool)
  | 0 => return ([], broken)
  | fuel + 1 => do
    let n := plainLength inFlow (← get).rest
    if (← peek) = some '#' ∨ n = 0 then return ([], broken)
    else
      let word := (← get).rest.take n
      skip n
      match ← plainSpaces with
      | (none, broken) => return (before ++ word, broken)
      | (some spaces, broken) =>
        let k ← get
        if k.at? '#' ∨ (!inFlow ∧ (k.column : Int) < column) then return (before ++ word, broken)
        else
          let (more, broken) ← plainWords inFlow column spaces broken fuel
          return (before ++ word ++ more, broken)

def plainText (inFlow : Bool) (indent : Int) : Scan (Text × Bool) := do
  plainWords inFlow (indent + 1) [] false ((← get).rest.length + 1)

end Scan
end MarkupCode.Yaml
