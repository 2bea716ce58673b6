import MarkupCode.Yaml.Token
import MarkupCode.Yaml.PlainText
import MarkupCode.Yaml.QuotedText
import MarkupCode.Yaml.BlockText

/-!
# Reading tokens

The scanner keeps the indentation of the open block collections and, for each level of brackets, the
last item that may still turn out to be a key: a colon behind it on the same line makes it one. At
the indentation of a block mapping such an item has to become a key.
-/

namespace MarkupCode.Yaml

/-- An item that may be a key: the number of tokens before it and where it stands. -/
structure KeyCandidate where
  position : Nat
  required : Bool
  index : Nat
  line : Nat
  column : Nat

structure Scanner where
  cursor : Cursor
  tokens : Array Token := #[]
  flowLevel : Nat := 0
  indent : Int := -1
  indents : List Int := []
  keyAllowed : Bool := true
  candidates : List (Nat × KeyCandidate) := []

namespace Scanner

abbrev Result := Except Error Scanner

def push (s : Scanner) (t : Token) : Scanner := { s with tokens := s.tokens.push t }

def inFlow (s : Scanner) : Bool := s.flowLevel ≠ 0

def column (s : Scanner) : Int := s.cursor.column

/-- An item can no longer be a key when its line is over or it is more than 1024 characters ago. -/
def isStale (s : Scanner) (k : KeyCandidate) : Bool :=
  k.line ≠ s.cursor.line || s.cursor.index > k.index + 1024

/-- Forgets the candidates that can no longer be keys; none of them may be required to be one. -/
def dropStale (s : Scanner) : Result :=
  if s.candidates.any fun c => s.isStale c.2 && c.2.required then .error .malformed
  else .ok { s with candidates := s.candidates.filter fun c => !s.isStale c.2 }

/-- The tokens that are settled: no key can come up among or before them. -/
def settled (s : Scanner) : Array Token :=
  let open' := s.candidates.filter fun c => !s.isStale c.2
  match (open'.map (·.2.position)).min? with
  | some position => s.tokens.take position
  | none => s.tokens

def dropCandidate (s : Scanner) : Result :=
  match s.candidates.lookup s.flowLevel with
  | none => .ok s
  | some k =>
    if k.required then .error .malformed
    else .ok { s with candidates := s.candidates.filter (·.1 ≠ s.flowLevel) }

def saveCandidate (s : Scanner) : Result :=
  if s.keyAllowed then do
    let s ← s.dropCandidate
    let k : KeyCandidate :=
      { position := s.tokens.size, required := !s.inFlow && s.indent = s.column,
        index := s.cursor.index, line := s.cursor.line, column := s.cursor.column }
    return { s with candidates := (s.flowLevel, k) :: s.candidates }
  else .ok s

def unwind (s : Scanner) (column : Int) : Scanner :=
  if s.inFlow then s else go s s.indents
where
  go (s : Scanner) : List Int → Scanner
    | [] => s
    | i :: is =>
      if s.indent > column then go { s.push .blockEnd with indent := i, indents := is } is else s

/-- Begins a block collection at a column, unless one is open there already. -/
def addIndent (s : Scanner) (column : Int) : Bool × Scanner :=
  if s.indent < column then (true, { s with indent := column, indents := s.indent :: s.indents })
  else (false, s)

def beginBlock (s : Scanner) (t : Token) : Scanner :=
  match s.addIndent s.column with
  | (true, s) => s.push t
  | (false, s) => s

def advance (s : Scanner) (n : Nat) : Scanner := { s with cursor := s.cursor.skip n }

def reading {α : Type} (s : Scanner) (r : Scan α) : Except Error (α × Scanner) := do
  let (a, cursor) ← r.run s.cursor
  return (a, { s with cursor })

/-- Skips spaces, comments and line breaks. A line break outside brackets lets a key follow. -/
def skipToToken (s : Scanner) : Nat → Scanner
  | 0 => s
  | fuel + 1 =>
    let k := s.cursor.skipSpaces.skipComment
    if k.peek.any isBreak then
      skipToToken { s with cursor := k.lineBreak.2, keyAllowed := s.keyAllowed || !s.inFlow } fuel
    else { s with cursor := k }

def documentMarker (s : Scanner) (t : Token) : Result := do
  let s ← (s.unwind (-1)).dropCandidate
  return ({ s with keyAllowed := false }.advance 3).push t

def directive (s : Scanner) : Result := do
  let s ← (s.unwind (-1)).dropCandidate
  let (d, s) ← { s with keyAllowed := false }.reading Scan.directive
  return s.push (.directive d)

def openFlow (s : Scanner) (t : Token) : Result := do
  let s ← s.saveCandidate
  return ({ s with flowLevel := s.flowLevel + 1, keyAllowed := true }.advance 1).push t

def closeFlow (s : Scanner) (t : Token) : Result := do
  let s ← s.dropCandidate
  if s.inFlow then
    return ({ s with flowLevel := s.flowLevel - 1, keyAllowed := false }.advance 1).push t
  else throw .malformed

def flowEntry (s : Scanner) : Result := do
  let s ← { s with keyAllowed := true }.dropCandidate
  return (s.advance 1).push .flowEntry

/-- A mark that stands for itself. Outside brackets it may begin a block, in the places where a key may
stand, and a key may follow it; inside brackets a key follows as `keyInFlow` tells. -/
def mark (s : Scanner) (start t : Token) (keyInFlow : Bool) : Result := do
  if !s.inFlow && !s.keyAllowed then throw .malformed
  let s := if s.inFlow then s else s.beginBlock start
  let s ← { s with keyAllowed := keyInFlow || !s.inFlow }.dropCandidate
  return (s.advance 1).push t

def blockEntry (s : Scanner) : Result := s.mark .blockSequenceStart .blockEntry true

def key (s : Scanner) : Result := s.mark .blockMappingStart .key false

def insertToken (s : Scanner) (position : Nat) (t : Token) : Scanner :=
  { s with tokens := s.tokens.take position ++ #[t] ++ s.tokens.drop position }

/-- A colon makes the candidate of its level a key; without one it stands for itself. -/
def value (s : Scanner) : Result := do
  match s.candidates.lookup s.flowLevel with
  | some k =>
    let s := { s with candidates := s.candidates.filter (·.1 ≠ s.flowLevel), keyAllowed := false }
    let s := s.insertToken k.position .key
    let s := if s.inFlow then s else
      match s.addIndent k.column with
      | (true, s) => s.insertToken k.position .blockMappingStart
      | (false, s) => s
    return (s.advance 1).push .value
  | none => s.mark .blockMappingStart .value false

/-- A token that may be a key and after which none may follow at once. -/
def item {α : Type} (s : Scanner) (r : Scan α) (t : α → Token) : Result := do
  let s ← s.saveCandidate
  let (a, s) ← { s with keyAllowed := false }.reading r
  return s.push (t a)

def block (s : Scanner) (folded : Bool) : Result := do
  let s ← { s with keyAllowed := true }.dropCandidate
  let (text, s) ← s.reading (Scan.blockText folded s.indent)
  return s.push (.scalar false text)

def plain (s : Scanner) : Result := do
  let s ← s.saveCandidate
  let ((text, broken), s) ← s.reading (Scan.plainText s.inFlow s.indent)
  return { s.push (.scalar true text) with keyAllowed := broken }

def startsPlain (s : Scanner) (c : Char) : Bool :=
  let marks := ['-', '?', ':', ',', '[', ']', '{', '}', '#', '&', '*', '!', '|', '>', '\'', '"', '%',
    '@', Char.ofNat 0x60]
  !(endsItem (some c) || c ∈ marks) ||
    (!endsItem (s.cursor.peek 1) && (c = '-' || (!s.inFlow && (c = '?' || c = ':'))))

def token (s : Scanner) (c : Char) : Result :=
  let standsAlone := endsItem (s.cursor.peek 1)
  let atLineStart := s.cursor.column = 0
  if c = '%' && atLineStart then s.directive
  else if atLineStart && s.cursor.atMarker '-' then s.documentMarker .documentStart
  else if atLineStart && s.cursor.atMarker '.' then s.documentMarker .documentEnd
  else if c = '[' then s.openFlow .flowSequenceStart
  else if c = '{' then s.openFlow .flowMappingStart
  else if c = ']' then s.closeFlow .flowSequenceEnd
  else if c = '}' then s.closeFlow .flowMappingEnd
  else if c = ',' then s.flowEntry
  else if c = '-' && standsAlone then s.blockEntry
  else if c = '?' && (s.inFlow || standsAlone) then s.key
  else if c = ':' && (s.inFlow || standsAlone) then s.value
  else if c = '*' then s.item Scan.anchorName .alias
  else if c = '&' then s.item Scan.anchorName .anchor
  else if c = '!' then s.item Scan.tagName .tag
  else if c = '|' && !s.inFlow then s.block false
  else if c = '>' && !s.inFlow then s.block true
  else if c = '\'' then s.item (Scan.quotedText false) (.scalar false)
  else if c = '"' then s.item (Scan.quotedText true) (.scalar false)
  else if s.startsPlain c then s.plain
  else .error .malformed

/-- Scans to the end: the tokens, and the fault that stopped the scan before the end if there was
one. With a fault only the tokens that were settled when it was met are there. -/
def run (s : Scanner) : Nat → Array Token × Option Error
  | 0 => (s.settled, some .malformed)
  | fuel + 1 =>
    match (s.skipToToken (s.cursor.rest.length + 1)).dropStale with
    | .error e => (s.settled, some e)
    | .ok next =>
      let next := next.unwind next.column
      match next.cursor.peek with
      | none =>
        match (next.unwind (-1)).dropCandidate with
        | .error e => (s.settled, some e)
        | .ok next => (next.tokens, none)
      | some c =>
        match next.token c with
        | .error e => (s.settled, some e)
        | .ok next => next.run fuel

end Scanner

/-- The tokens of a document, with the fault that stopped the scan if there was one. A byte-order
mark in front is skipped. -/
def tokens (text : Text) : List Token × Option Error :=
  if text.all isAllowed then
    let start : Cursor := { rest := text }
    let start := if start.at? '\ufeff' then start.step else start
    let (ts, fault) := ({ cursor := start } : Scanner).run (text.length + 1)
    (ts.toList, fault)
  else ([], some .malformed)

end MarkupCode.Yaml
