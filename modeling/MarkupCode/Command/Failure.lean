import MarkupCode.Convert
import MarkupCode.FileTree.Access
import MarkupCode.Options.Load

/-!
# Failures of a command

What may go wrong once a command line has been understood, with the wording of each cause.
-/

namespace MarkupCode

inductive Failure
  | optionsMissing (p : Path)
  | options (p : Path) (e : LoadError)
  | settings (details : List OptionDetail)
  | inputMissing (p : Path)
  | encoding (e : Text.Utf8Error)
  | conversion (e : ConvertError)
  | outputTaken (p : Path)
  | file (e : FileError)
  | noPath
  deriving DecidableEq, Repr

/-- Where details follow, the wording ends before them. -/
def Failure.message : Failure → String
  | optionsMissing p => "Options file not found: " ++ String.ofList p.text
  | options p e => e.message p.text
  | settings _ => "Invalid options: "
  | inputMissing p => "Input HTML not found: " ++ String.ofList p.text
  | encoding e => e.message
  | conversion e => e.message
  | outputTaken p =>
    "Output file already exists: " ++ String.ofList p.text ++ ". Use --force to overwrite."
  | file e => e.message
  | noPath => "expected str, bytes or os.PathLike object, not list"

end MarkupCode
