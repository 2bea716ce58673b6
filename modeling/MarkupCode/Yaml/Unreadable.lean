import MarkupCode.Yaml.Composer
import MarkupCode.Yaml.Scalar

/-!
# Documents that cannot be read

A document that breaks the rules of the notation is malformed. One that keeps them may still fail to
have a value: it gives a character by a number that no character has, its version has more digits than
are read, or it puts a scalar under a tag whose notation the scalar does not follow.
-/

namespace MarkupCode.Yaml

def Scalar.ofText (t : Tag) (s : Text) : Except Error Scalar :=
  match t with
  | .null => .ok .null
  | .bool => boolValue s
  | .int => intValue s
  | .float => floatValue s
  | .binary => binaryValue s
  | .timestamp => stampValue s
  | .str => .ok (.text s)
  | _ => .error .malformed

namespace Graph

def IsScalar (g : Graph) (i : Nat) (s : Text) : Prop := (g.node i).content = .scalar s

/-- A node of the graph is tagged as a truth value, a number or a date, and the text that stands for it is
none. That is its own text, or for a collection that of a scalar among its default values; a date has to
have a text of its own. -/
inductive Misreads (g : Graph) : Error → Prop
  | scalar {i j : Nat} {s : Text} {e : Error} (isScalar : g.IsScalar j s)
    (isOwn : ∀ s', g.IsScalar i s' → j = i)
    (denotes : (g.node i).tag ∈ [Tag.bool, .int, .float, .timestamp])
    (fails : Scalar.ofText (g.node i).tag s = .error e) (wellFormed : e ≠ .malformed) : Misreads g e
  | date {i : Nat} (isDate : (g.node i).tag = .timestamp) (isCollection : ∀ s, ¬g.IsScalar i s) :
    Misreads g .dateOfCollection

end Graph

/-- What keeps a text from having a value although its notation is well formed. -/
inductive Unreadable (text : Text) : Error → Prop
  | character {digits : Text} (inside : digits <:+: text) (hex : digits.all Text.isHexDigit)
    (large : 0x10ffff < Text.numeralValue 16 digits) :
    Unreadable text (.characterNumber (0x80000000 ≤ Text.numeralValue 16 digits))
  | version {digits : Text} (inside : digits <:+: text) (decimal : digits.all Text.isAsciiDigit)
    (long : Text.maxDigits < digits.length) : Unreadable text (.longNumeral digits.length)
  | node {g : Graph} {root : Option Nat} {e : Error} (graph : compose text = .ok (g, root))
    (misreads : g.Misreads e) : Unreadable text e

theorem Unreadable.ne_malformed {text : Text} {e : Error} (h : Unreadable text e) : e ≠ .malformed := by
  cases h with
  | character => exact Error.noConfusion
  | version => exact Error.noConfusion
  | node _ misreads =>
    cases misreads with
    | scalar _ _ _ _ wellFormed => exact wellFormed
    | date => exact Error.noConfusion

def FaultOf (text : Text) (e : Error) : Prop := e = .malformed ∨ Unreadable text e

theorem FaultOf.malformed (text : Text) : FaultOf text .malformed := .inl rfl

end MarkupCode.Yaml
