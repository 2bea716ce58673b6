import MarkupCode.Code.Literal
import MarkupCode.Node.Basic

/-!
# Attribute lists

An attribute becomes an identifier between underscores, with its value as a literal unless the
attribute is one whose presence alone counts. An identifier drops the hyphens of a name and
capitalises what follows each run of them; a line feed behind a run stays as it is, and so does a
name without hyphens.
-/

namespace MarkupCode.Code

/-- Attributes that hold by being present; their values are not written. -/
def booleanAttributes : List Text :=
  ["allowfullscreen", "async", "autofocus", "autoplay", "checked", "controls", "default", "defer",
   "disabled", "formnovalidate", "hidden", "ismap", "itemscope", "loop", "multiple", "muted",
   "nomodule", "novalidate", "open", "readonly", "required", "reversed", "selected"].map
    String.toList

/-- One scan over a name; `afterHyphen` holds when the character before is a hyphen. -/
def joinHyphens (afterHyphen : Bool) : Text → Text
  | [] => []
  | c :: rest =>
    if c = '-' then joinHyphens true rest
    else if afterHyphen && c ≠ '\n' then Text.upper c ++ joinHyphens false rest
    else c :: joinHyphens false rest

def camelCase (name : Text) : Text :=
  if '-' ∈ name then joinHyphens false name else name

def identifier (name : Text) : Text := '_' :: camelCase name ++ ['_']

def attributeCode (name value : Text) : Text :=
  if name ∈ booleanAttributes then identifier name
  else identifier name ++ " \"".toList ++ escape value ++ ['"']

def attributeCodes (attrs : Attributes) : List Text :=
  attrs.map fun a => attributeCode a.1 a.2

def attributeList (codes : List Text) : Text :=
  if codes = [] then "[]".toList
  else "[ ".toList ++ "; ".toList.intercalate codes ++ " ]".toList

theorem joinHyphens_of_no_hyphen {name : Text} (h : '-' ∉ name) : joinHyphens false name = name := by
  induction name with
  | nil => rfl
  | cons c r ih =>
    have hc : c ≠ '-' := fun e => h (by simp [e])
    have hr : '-' ∉ r := fun m => h (by simp [m])
    simp [joinHyphens, hc, ih hr]

/-- A name without hyphens is no exception to the scan. -/
theorem camelCase_eq_joinHyphens (name : Text) : camelCase name = joinHyphens false name := by
  unfold camelCase
  split
  · rfl
  · next h => exact (joinHyphens_of_no_hyphen h).symm

end MarkupCode.Code
