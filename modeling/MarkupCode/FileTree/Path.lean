import MarkupCode.Text.Pieces

/-!
# Paths

A path names the folders to pass and the item in the last of them. It is written with slashes between
the names; repeated slashes and names of a single dot say nothing and are dropped, while two dots stay
a name of their own. A path that names nothing is written as a dot.
-/

namespace MarkupCode

/-- Where a path starts. Two leading slashes are another spelling of the root than one. -/
inductive Anchor
  | home
  | root
  | doubleRoot
  deriving DecidableEq, Repr

namespace Anchor

def text : Anchor → Text
  | home => []
  | root => ['/']
  | doubleRoot => ['/', '/']

def ofText : Text → Anchor
  | ['/', '/'] => doubleRoot
  | '/' :: '/' :: c :: _ => if c = '/' then root else doubleRoot
  | '/' :: _ => root
  | _ => home

end Anchor

structure Path where
  anchor : Anchor
  names : List Text
  deriving DecidableEq, Repr

namespace Path

def ofText (s : Text) : Path :=
  ⟨.ofText s, (Text.pieces '/' s).filter fun n => n ≠ [] ∧ n ≠ ['.']⟩

def text (p : Path) : Text :=
  match p.anchor, p.names with
  | .home, [] => ['.']
  | a, names => a.text ++ ['/'].intercalate names

def name (p : Path) : Text := p.names.getLastD []

/-- The path without its last name; a path without names is its own parent. -/
def parent (p : Path) : Path := { p with names := p.names.dropLast }

end Path
end MarkupCode
