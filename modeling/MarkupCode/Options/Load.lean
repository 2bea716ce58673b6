import MarkupCode.Options.Validate
import MarkupCode.Text.Newline
import MarkupCode.Yaml.Document

/-!
# Options files

An options file is a data document that holds a mapping of options. Its bytes are decoded, its line
ends unified, its value read and the options checked. A document whose value counts as nothing gives
the default options.
-/

namespace MarkupCode

inductive LoadError
  | encoding (e : Text.Utf8Error)
  | document (e : Yaml.Error)
  | notMapping
  | invalid (details : List OptionDetail)
  deriving DecidableEq, Repr

/-- The wording of a fault in the file at a path. Where a report or details follow, it ends before
them. -/
def LoadError.message (path : Text) : LoadError → String
  | encoding e => e.message
  | document .malformed => "Invalid YAML in " ++ String.ofList path ++ ": "
  | document e => e.message
  | notMapping => String.ofList path ++ " must contain a mapping of options."
  | invalid _ => "Invalid options in " ++ String.ofList path ++ ": "

namespace Options

def keyOfScalar (s : Yaml.Scalar) : OptionKey :=
  match s with
  | .text t => .name t
  | .bool b => .number (if b then 1 else 0)
  | .int n => if -0x8000000000000000 ≤ n ∧ n < 0x8000000000000000 then .number n else .shown s.shown
  | _ => .shown s.shown

def datumOfScalar : Yaml.Scalar → Datum
  | .null => .null
  | .bool b => .bool b
  | .int n => .int n
  | .float x => .float x
  | .text s => .text s
  | .bytes b => .bytes b
  | .stamp _ => .other

def datumOfItem : Yaml.Item → Datum
  | .scalar s => datumOfScalar s
  | .collection => .other

/-- The options that a document's value gives as data; none when it is neither a mapping nor nothing. -/
def dataOfValue? : Yaml.Value → Option Data
  | .scalar s => if s.isFalsy then some [] else none
  | .mapping entries => some (entries.map fun e => (keyOfScalar e.1, datumOfItem e.2))
  | .other isEmpty => if isEmpty then some [] else none

def load (content : Text.Bytes) : Except LoadError Options := do
  let text ← (Text.decode content).mapError .encoding
  let value ← (Yaml.read (Text.unifyNewlines text)).mapError .document
  match dataOfValue? value with
  | none => throw .notMapping
  | some data => (validate data).mapError .invalid

end Options
end MarkupCode
