import MarkupCode.Yaml.Graph
import MarkupCode.Yaml.Scanner

/-!
# From tokens to a graph

A document is directives and one node. The grammar is read by recursion on the structure of a node;
each call passes on a bound on the depth, of which a list of tokens needs no more than twice its
length. A node may be named once and referred to behind its name, within itself too.
-/

namespace MarkupCode.Yaml

/-- What is left to read, the fault that ends it if there is one, and the graph so far. -/
structure Composer where
  tokens : List Token
  fault : Option Error
  handles : List (Text × Text)
  graph : Graph := #[]
  anchors : List (Text × Nat) := []

abbrev Compose := StateT Composer (Except Error)

namespace Compose

def malformed {α : Type} : Compose α := throw .malformed

/-- The next token; behind the last one the fault of the scan appears. -/
def peek : Compose (Option Token) := do
  match (← get).tokens, (← get).fault with
  | t :: _, _ => return some t
  | [], some e => throw e
  | [], none => return none

def drop : Compose Unit := modify fun c => { c with tokens := c.tokens.drop 1 }

def accept (t : Token) : Compose Bool := do
  if (← peek) = some t then
    drop
    return true
  else return false

def expect (t : Token) : Compose Unit := do
  if ← accept t then return else malformed

def nextIs (ts : List Token) : Compose Bool := do
  match ← peek with
  | some t => return t ∈ ts
  | none => return false

def add (n : Node) (anchor : Option Text) : Compose Nat :=
  modifyGet fun c =>
    (c.graph.size, { c with
      graph := c.graph.push n
      anchors := match anchor with
        | some a => (a, c.graph.size) :: c.anchors
        | none => c.anchors })

def setContent (id : Nat) (content : Content) : Compose Unit :=
  modify fun c => { c with graph := c.graph.setContent id content }

def nothing : Compose Nat := add ⟨.null, .scalar []⟩ none

structure Properties where
  anchor : Option Text := none
  tag : Option Text := none

def expand (t : TagName) : Compose Text := do
  match t.handle with
  | none => return t.suffix
  | some h =>
    match (← get).handles.lookup h with
    | some start => return start ++ t.suffix
    | none => malformed

def anchor? : Compose (Option Text) := do
  match ← peek with
  | some (.anchor a) => drop; return some a
  | _ => return none

def tag? : Compose (Option TagName) := do
  match ← peek with
  | some (.tag t) => drop; return some t
  | _ => return none

/-- An anchor and a tag in either order; a name is given once. -/
def properties : Compose Properties := do
  let first ← anchor?
  let tag ← tag?
  let anchor ← if first.isSome ∨ tag.isNone then pure first else anchor?
  let tag ← match tag with
    | some t => do pure (some (← expand t))
    | none => pure none
  let used := (← get).anchors
  if anchor.any fun a => (used.lookup a).isSome then malformed
  return { anchor, tag }

def isOpen (tag : Option Text) : Bool := tag = none || tag = some ['!']

def collectionTag (tag : Option Text) (default : Tag) : Tag :=
  if isOpen tag then default else Tag.ofText (tag.getD [])

/-- A scalar's tag follows from its notation when it is plain or its tag is left open. -/
def scalarTag (tag : Option Text) (plain : Bool) (s : Text) : Tag :=
  match tag with
  | none => if plain then Tag.ofPlain s else .str
  | some t => if t = ['!'] then Tag.ofPlain s else Tag.ofText t

mutual
/-- A node. Block collections begin only where `block` holds, and a sequence without indentation of
its own only where `indentless` holds. -/
def node (block indentless : Bool) : Nat → Compose Nat
  | 0 => malformed
  | fuel + 1 => do
    if let some (.alias name) ← peek then
      drop
      match (← get).anchors.lookup name with
      | some id => return id
      | none => malformed
    else
      let p ← properties
      let sequence : Compose Nat := add ⟨collectionTag p.tag .seq, .sequence []⟩ p.anchor
      let mapping : Compose Nat := add ⟨collectionTag p.tag .map, .mapping []⟩ p.anchor
      match ← peek with
      | some (.scalar plain s) =>
        drop
        add ⟨scalarTag p.tag plain s, .scalar s⟩ p.anchor
      | some .flowSequenceStart =>
        drop
        let id ← sequence
        setContent id (.sequence (← flowItems true fuel))
        return id
      | some .flowMappingStart =>
        drop
        let id ← mapping
        setContent id (.mapping (← flowEntries true fuel))
        return id
      | t =>
        if indentless ∧ t = some .blockEntry then
          let id ← sequence
          setContent id (.sequence (← indentlessItems fuel))
          return id
        else if block ∧ t = some .blockSequenceStart then
          drop
          let id ← sequence
          setContent id (.sequence (← blockItems fuel))
          return id
        else if block ∧ t = some .blockMappingStart then
          drop
          let id ← mapping
          setContent id (.mapping (← blockEntries fuel))
          return id
        else if p.anchor.isSome ∨ p.tag.isSome then
          add ⟨scalarTag p.tag true [], .scalar []⟩ p.anchor
        else malformed

def nodeBefore (block indentless : Bool) (ends : List Token) : Nat → Compose Nat
  | 0 => malformed
  | fuel + 1 => do if ← nextIs ends then nothing else node block indentless fuel

def blockItems : Nat → Compose (List Nat)
  | 0 => malformed
  | fuel + 1 => do
    if ← accept .blockEntry then
      let item ← nodeBefore true false [.blockEntry, .blockEnd] fuel
      return item :: (← blockItems fuel)
    else
      expect .blockEnd
      return []

def indentlessItems : Nat → Compose (List Nat)
  | 0 => malformed
  | fuel + 1 => do
    if ← accept .blockEntry then
      let item ← nodeBefore true false [.blockEntry, .key, .value, .blockEnd] fuel
      return item :: (← indentlessItems fuel)
    else return []

def blockEntries : Nat → Compose (List (Nat × Nat))
  | 0 => malformed
  | fuel + 1 => do
    if ← accept .key then
      let key ← nodeBefore true true [.key, .value, .blockEnd] fuel
      let value ←
        if ← accept .value then nodeBefore true true [.key, .value, .blockEnd] fuel else nothing
      return (key, value) :: (← blockEntries fuel)
    else
      expect .blockEnd
      return []

/-- A key and a value inside brackets, where the key mark has been read. -/
def flowPair (ending : Token) : Nat → Compose (Nat × Nat)
  | 0 => malformed
  | fuel + 1 => do
    let key ← nodeBefore false false [.value, .flowEntry, ending] fuel
    let value ←
      if ← accept .value then nodeBefore false false [.flowEntry, ending] fuel else nothing
    return (key, value)

/-- The items of a bracketed sequence; a pair among them is a mapping of its own. -/
def flowItems (first : Bool) : Nat → Compose (List Nat)
  | 0 => malformed
  | fuel + 1 => do
    if ← accept .flowSequenceEnd then return []
    if !first then expect .flowEntry
    if ← accept .key then
      let id ← add ⟨.map, .mapping []⟩ none
      setContent id (.mapping [← flowPair .flowSequenceEnd fuel])
      return id :: (← flowItems false fuel)
    else if ← accept .flowSequenceEnd then return []
    else
      let item ← node false false fuel
      return item :: (← flowItems false fuel)

def flowEntries (first : Bool) : Nat → Compose (List (Nat × Nat))
  | 0 => malformed
  | fuel + 1 => do
    if ← accept .flowMappingEnd then return []
    if !first then expect .flowEntry
    if ← accept .key then
      let entry ← flowPair .flowMappingEnd fuel
      return entry :: (← flowEntries false fuel)
    else if ← accept .flowMappingEnd then return []
    else
      let key ← node false false fuel
      let value ← nothing
      return (key, value) :: (← flowEntries false fuel)
end

def defaultHandles : List (Text × Text) := [(['!'], ['!']), (['!', '!'], Tag.space)]

/-- The directives in front of a document: one version, which has to be known, and one expansion for
each handle. -/
def directives (versioned : Bool) (handles : List (Text × Text)) : Nat → Compose Unit
  | 0 => malformed
  | fuel + 1 => do
    match ← peek with
    | some (.directive d) =>
      drop
      match d with
      | .version major =>
        if versioned ∨ major ≠ 1 then malformed else directives true handles fuel
      | .tag h expansion =>
        if (handles.lookup h).isSome then malformed
        else directives versioned ((h, expansion) :: handles) fuel
      | .unknown => directives versioned handles fuel
    | _ => modify fun c => { c with handles := handles ++ defaultHandles }

def isDirective : Option Token → Bool
  | some (.directive _) => true
  | _ => false

def dropEnds : Nat → Compose Unit
  | 0 => malformed
  | fuel + 1 => do if ← accept .documentEnd then dropEnds fuel

/-- The only document of a text: the number of its root, or none when there is no document. Of another one
behind it the directives are read before it is refused. -/
def document : Compose (Option Nat) := do
  let fuel := 2 * (← get).tokens.length + 4
  let first ← peek
  match first with
  | none => return none
  | some _ =>
    let root ←
      if isDirective first ∨ first = some .documentStart then do
        directives false [] fuel
        expect .documentStart
        let next ← peek
        if isDirective next ∨ next ∈ [none, some .documentStart, some .documentEnd] then nothing
        else node true false fuel
      else node true false fuel
    dropEnds fuel
    if (← peek).isSome then
      directives false [] fuel
      malformed
    return some root

end Compose

def compose (text : Text) : Except Error (Graph × Option Nat) := do
  let (ts, fault) := tokens text
  let start : Composer := { tokens := ts, fault, handles := Compose.defaultHandles }
  let (root, c) ← Compose.document.run start
  return (c.graph, root)

end MarkupCode.Yaml
