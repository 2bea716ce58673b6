import MarkupCode.Text.Interval

/-!
# Page trees

A page as markup tells it: tags with their attributes in order, strings of several sorts, and marks
that are neither. Comments, declarations and the like are inert: they carry nothing to show.
-/

namespace MarkupCode.Html

/-- The sorts of strings in a page; the first seven are content and the others are inert. -/
inductive StringSort
  | plain
  | script
  | stylesheet
  | template
  | rubyText
  | rubyParenthesis
  | preformatted
  | comment
  | characterData
  | declaration
  | doctype
  | instruction
  deriving DecidableEq, Repr

def StringSort.isInert : StringSort → Bool
  | comment | characterData | declaration | doctype | instruction => true
  | _ => false

inductive AttributeValue
  | absent
  | text (s : Text)
  | words (ws : List Text)
  | number (n : Int)
  deriving DecidableEq, Repr

abbrev TagAttributes := List (Text × AttributeValue)

inductive Tree
  | tag (name : Text) (attrs : TagAttributes) (contents : List Tree)
  | string (sort : StringSort) (text : Text)
  | mark
  deriving Repr

namespace Tree

mutual
def size : Tree → Nat
  | tag _ _ contents => 1 + sizes contents
  | string _ _ => 1
  | mark => 1

def sizes : List Tree → Nat
  | [] => 0
  | t :: ts => t.size + sizes ts
end

mutual
/-- The first tag of a name in document order, the tree itself included: its contents. -/
def find? (name : Text) : Tree → Option (List Tree)
  | tag n _ contents => if n = name then some contents else findAll? name contents
  | string _ _ => none
  | mark => none

def findAll? (name : Text) : List Tree → Option (List Tree)
  | [] => none
  | t :: ts => (find? name t).or (findAll? name ts)
end

end Tree
end MarkupCode.Html
