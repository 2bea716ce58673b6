import MarkupCode.Options.Load
import MarkupCode.Yaml.Unreadable

/-!
# What an options file comes to

An options file has a value, and the value gives options when it counts as nothing or is a mapping that
sets them. A fault of the file is reported with the name of the file, or else ends the program as it is.
-/

namespace MarkupCode

/-- The faults that are reported. Bytes that are no text, and documents that cannot be read although they
are well formed, are not. -/
def LoadError.isReport : LoadError → Bool
  | encoding _ => false
  | document e => e = .malformed
  | notMapping => true
  | invalid _ => true

/-- Null, false, zero and everything empty but a mapping. -/
def Yaml.Value.isNothing : Yaml.Value → Bool
  | scalar s => s.isFalsy
  | mapping _ => false
  | other isEmpty => isEmpty

namespace Options

def documentValue (content : Text.Bytes) : Except LoadError Yaml.Value := do
  let text ← (Text.decode content).mapError .encoding
  (Yaml.read (Text.unifyNewlines text)).mapError .document

theorem dataOfValue?_of_isNothing {v : Yaml.Value} (h : v.isNothing) : dataOfValue? v = some [] := by
  cases v with
  | mapping entries => cases h
  | scalar s => exact if_pos h
  | other isEmpty => exact if_pos h

theorem dataOfValue?_eq_none {v : Yaml.Value} (h : ¬v.isNothing)
    (hmapping : ∀ entries, v ≠ .mapping entries) : dataOfValue? v = none := by
  cases v with
  | mapping entries => exact absurd rfl (hmapping entries)
  | scalar s => exact if_neg h
  | other isEmpty => exact if_neg h

def ofValue (v : Yaml.Value) : Except LoadError Options :=
  match dataOfValue? v with
  | none => .error .notMapping
  | some data => (validate data).mapError .invalid

theorem load_eq_bind (content : Text.Bytes) : load content = documentValue content >>= ofValue := by
  unfold load documentValue
  rw [bind_assoc]
  rfl

/-- Every entry of a mapping sets one of the two options, to a value that the option accepts, and an option
that no entry sets has its usual value. -/
structure IsSetBy (o : Options) (entries : List (Yaml.Scalar × Yaml.Item)) : Prop where
  entry : ∀ e ∈ entries,
    e.1 = .text "indent_size".toList ∧ size (datumOfItem e.2) = .ok ⟨o.indentSize, o.indentSize_pos⟩ ∨
    e.1 = .text "body_only".toList ∧ switch (datumOfItem e.2) = .ok o.bodyOnly
  usualIndent : (∀ e ∈ entries, e.1 ≠ .text "indent_size".toList) → o.indentSize = 4
  usualBody : (∀ e ∈ entries, e.1 ≠ .text "body_only".toList) → o.bodyOnly = false

inductive Unreported (content : Text.Bytes) : LoadError → Prop
  | encoding {fault : Text.Utf8Error} (h : Text.decode content = .error fault) :
    Unreported content (.encoding fault)
  | document {text : Text} {fault : Yaml.Error} (h : Text.decode content = .ok text)
    (hfault : Yaml.Unreadable (Text.unifyNewlines text) fault) : Unreported content (.document fault)

/-- A file gives options or is reported on; and it gives them only when its value is null or a mapping that
sets them. -/
structure LoadsAsPromised (content : Text.Bytes) : Prop where
  reported : ∀ e, load content = .error e → e.isReport ∧ ∀ path, path <:+: (e.message path).toList
  given : ∀ o, load content = .ok o → documentValue content = .ok (.scalar .null) ∨
    ∃ entries, documentValue content = .ok (.mapping entries) ∧ o.IsSetBy entries

end Options
end MarkupCode
