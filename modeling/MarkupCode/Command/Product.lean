import MarkupCode.Command.Run
import MarkupCode.FileTree.Change

/-!
# What a command line has saved

A command line says whether it forces its way over an output that is there, and where its output goes, if
not to standard output. Run in a tree on an input, it may get as far as a text to be saved there.
`runAll` runs command lines one after the other, each in the tree that the one before leaves.
-/

namespace MarkupCode

namespace Request

def forces : Request → Bool
  | .help _ => false
  | .run _ s => s.force

def out? : Request → Option Path
  | .help _ => none
  | .run .convert s => (Given.text? s.out).map .ofText
  | .run .preview s => (Command.pathOf s.out).toOption

/-- The output path and the text for it, where options and input give one: the code with a line feed, or
the preview page. -/
def product? (t : FileTree) (standardInput : Text.Bytes) : Request → Option (Path × Text)
  | .help _ => none
  | .run .convert s =>
    match Command.codeOf t standardInput s, Given.text? s.out with
    | .ok code, some file => some (.ofText file, code ++ ['\n'])
    | _, _ => none
  | .run .preview s => (Command.previewOf t standardInput s).toOption

end Request

namespace CommandLine

def request? (arguments : List Text) : Option Request := (Request.ofArguments arguments).toOption

def forces (arguments : List Text) : Bool := (request? arguments).any Request.forces

def out? (arguments : List Text) : Option Path := (request? arguments).bind Request.out?

def product? (t : FileTree) (standardInput : Text.Bytes) (arguments : List Text) :
    Option (Path × Text) :=
  (request? arguments).bind (Request.product? t standardInput)

end CommandLine

abbrev Call := Text.Bytes × List Text

def runAll (t : FileTree) : List Call → FileTree
  | [] => t
  | (standardInput, arguments) :: calls => runAll (run t standardInput arguments).tree calls

/-- Something holds of every call in the tree that it starts in. -/
def EachCall (P : FileTree → Call → Prop) (t : FileTree) : List Call → Prop
  | [] => True
  | call :: calls => P t call ∧ EachCall P (run t call.1 call.2).tree calls

def DetoursTo (l : Location) (t : FileTree) (call : Call) : Prop :=
  ∃ p, CommandLine.out? call.2 = some p ∧ t.Detours p ∧ (run t call.1 call.2).ending = .success ∧
    (run t call.1 call.2).tree.LeadsTo p l

end MarkupCode
