import MarkupCode.Html.Token
import MarkupCode.Entries

/-!
# Building the tree

Tokens are taken in one by one. The open elements form a stack; texts collect until markup ends
them, and a text of white space alone shrinks to one character unless an element that preserves
white space is open. An element that is always empty closes as it opens, and the end tag that may
still follow it closes nothing. An end tag closes the innermost element of its name with all that is
open inside it, or nothing.
-/

namespace MarkupCode.Html

/-- An open element; its contents so far stand last first. -/
structure OpenElement where
  name : Text
  attrs : TagAttributes
  contents : List Tree := []

def OpenElement.toTree (e : OpenElement) : Tree := .tag e.name e.attrs e.contents.reverse

/-- A page under construction: the open elements, innermost first, the finished contents of the page
and the pieces of the pending text, both last first, and the empty elements whose end tags may still
come. -/
structure Builder where
  elements : List OpenElement := []
  contents : List Tree := []
  pending : List Text := []
  awaited : List Text := []

def emptyElements : List Text :=
  ["area", "base", "br", "col", "embed", "hr", "img", "input", "keygen", "link", "menuitem", "meta",
   "param", "source", "track", "wbr", "basefont", "bgsound", "command", "frame", "image", "isindex",
   "nextid", "spacer"].map String.toList

def preservingElements : List Text := ["pre".toList, "textarea".toList]

def isSpace (c : Char) : Bool := c ∈ [' ', '\n', '\t', '\x0c', '\r']

/-- White space alone becomes a line feed if it holds one, and a space otherwise. -/
def shrink (s : Text) : Text :=
  if s.all isSpace then (if '\n' ∈ s then ['\n'] else [' ']) else s

namespace Builder

def add (b : Builder) (t : Tree) : Builder :=
  match b.elements with
  | [] => { b with contents := t :: b.contents }
  | e :: es => { b with elements := { e with contents := t :: e.contents } :: es }

def preserves (b : Builder) : Bool := b.elements.any (·.name ∈ preservingElements)

def flush (b : Builder) (sort : StringSort) : Builder :=
  if b.pending = [] then b
  else
    let s := b.pending.reverse.flatten
    { b with pending := [] }.add (.string sort (if b.preserves then s else shrink s))

def push (b : Builder) (name : Text) (attrs : List (Text × Text)) : Builder :=
  let attrs := (Entries.ofPairs attrs).map fun a => (a.1, AttributeValue.text a.2)
  { b with elements := { name, attrs } :: b.elements }

def pop (b : Builder) : Builder :=
  match b.elements with
  | [] => b
  | e :: es => { b with elements := es }.add e.toTree

/-- Closes elements up to and including the innermost one of a name, if one is open. -/
def close (b : Builder) (name : Text) : Builder :=
  match b.elements.findIdx? (·.name = name) with
  | none => b
  | some i => Nat.repeat pop (i + 1) b

def take (b : Builder) : Token → Builder
  | .text s => { b with pending := s :: b.pending }
  | .inert sort s => { b.flush .plain with pending := [s] }.flush sort
  | .startTag name attrs =>
    let opened := (b.flush .plain).push name attrs
    if name ∈ emptyElements then
      { opened.close name with awaited := name :: b.awaited }
    else opened
  | .emptyTag name attrs => ((b.flush .plain).push name attrs).close name
  | .endTag name =>
    if name ∈ b.awaited then { b with awaited := b.awaited.erase name }
    else (b.flush .plain).close name

def finish (b : Builder) : List Tree :=
  let b := b.flush .plain
  (Nat.repeat pop b.elements.length b).contents.reverse

end Builder

def treesOf (tokens : List Token) : List Tree := (tokens.foldl Builder.take {}).finish

end MarkupCode.Html
