import MarkupCode.Yaml.Property

/-!
# Tokens of a document

Indentation appears as tokens of its own: a block collection begins and ends with one, and a key is
announced in front of the item that turns out to be one.
-/

namespace MarkupCode.Yaml

inductive Token
  | directive (d : Directive)
  | documentStart
  | documentEnd
  | blockSequenceStart
  | blockMappingStart
  | blockEnd
  | flowSequenceStart
  | flowMappingStart
  | flowSequenceEnd
  | flowMappingEnd
  | blockEntry
  | flowEntry
  | key
  | value
  | alias (name : Text)
  | anchor (name : Text)
  | tag (t : TagName)
  | scalar (plain : Bool) (s : Text)
  deriving DecidableEq, Repr

end MarkupCode.Yaml
