import MarkupCode.Command.Failure
import MarkupCode.Command.Request
import MarkupCode.Preview.Page
import MarkupCode.Text.Newline

/-!
# Running a command

A command finds its options, reads its input and converts it, all of which leaves the file tree as it
is. Only then does it write, to one file at most: the code with a line feed behind it, or a preview
page. A file that is there is not written over unless that is asked for.
-/

namespace MarkupCode

namespace Settings

def paths (s : Settings) : List Path :=
  [s.config, s.input, s.out].filterMap fun
    | some (.value p) => some (.ofText p)
    | _ => none

/-- The options of a configuration file, or the default ones, under the flags. -/
def options (t : FileTree) (s : Settings) : Except Failure Options := do
  let base ← match Given.text? s.config with
    | none => pure default
    | some file => do
      let p := Path.ofText file
      if ← (t.contains p).mapError .file then
        (Options.load (← (t.read p).mapError .file)).mapError (.options p)
      else throw (.optionsMissing p)
  match s.indent with
  | none => (base.resolve none s.bodyOnly).mapError .settings
  | some (.value n) => (base.resolve (some n) s.bodyOnly).mapError .settings
  | some .nothing => throw (.settings [⟨Options.indentKey, .integerType⟩])

end Settings

namespace Command

def decodeText (content : Text.Bytes) : Except Failure Text :=
  ((Text.decode content).mapError .encoding).map Text.unifyNewlines

def readsStandardInput (p : Option Path) : Bool :=
  match p with
  | none => true
  | some p => p.text = ['-']

/-- The text at a path; standard input has the path of a hyphen, and is read where no path is given. -/
def readSource (t : FileTree) (standardInput : Text.Bytes) (p : Option Path) :
    Except Failure Text := do
  match p with
  | none => decodeText standardInput
  | some p =>
    if readsStandardInput (some p) then decodeText standardInput
    else if ← (t.contains p).mapError .file then
      decodeText (← (t.read p).mapError .file)
    else throw (.inputMissing p)

/-- Puts a text into a file, with the folders for it. What was made before a failure stays. -/
def save (t : FileTree) (p : Path) (text : Text) (force : Bool) : FileTree × Except Failure Unit :=
  match t.contains p with
  | .error e => (t, .error (.file e))
  | .ok found =>
    if found && !force then (t, .error (.outputTaken p))
    else match t.makeFolders p.parent with
      | (t', .error e) => (t', .error (.file e))
      | (t', .ok ()) => match t'.writeFile p (Text.encode text) with
        | .ok t'' => (t'', .ok ())
        | .error f => (t', .error (.file ⟨f, p⟩))

/-- The path that a flag gives when an empty text counts as a path. -/
def pathOf (g : Option (Given Text)) : Except Failure Path :=
  match g with
  | some (.value s) => .ok (.ofText s)
  | _ => .error .noPath

end Command

inductive Ending
  | success
  | refusal (e : UsageError)
  | failure (e : Failure)
  deriving DecidableEq, Repr

def Ending.exitCode : Ending → Nat
  | success => 0
  | failure _ => 1
  | refusal _ => 2

structure Report where
  tree : FileTree
  output : Text := []
  warnings : Text := []
  ending : Ending := .success

namespace Command

def saveReport (t : FileTree) (p : Path) (text : Text) (force : Bool) (what : String)
    (warnings : Text) : Report :=
  match save t p text force with
  | (t', .ok ()) =>
    { tree := t'
      output := "Wrote ".toList ++ what.toList ++ " to ".toList ++ p.text ++ ['\n']
      warnings }
  | (t', .error e) => { tree := t', warnings, ending := .failure e }

def codeOf (t : FileTree) (standardInput : Text.Bytes) (s : Settings) : Except Failure Text := do
  let o ← s.options t
  let source ← readSource t standardInput ((Given.text? s.input).map .ofText)
  (MarkupCode.convert o source).mapError .conversion

def emptyWarning (s : Settings) : Text :=
  "No output produced for ".toList ++ (Given.text? s.input).getD "stdin".toList ++ ".\n".toList

def runConvert (t : FileTree) (standardInput : Text.Bytes) (s : Settings) : Report :=
  match codeOf t standardInput s with
  | .error e => { tree := t, ending := .failure e }
  | .ok code =>
    let warnings := if code = [] then emptyWarning s else []
    match Given.text? s.out with
    | some file => saveReport t (.ofText file) (code ++ ['\n']) s.force "Falco.Markup" warnings
    | none => { tree := t, output := if code = [] then [] else code ++ ['\n'], warnings }

def previewOf (t : FileTree) (standardInput : Text.Bytes) (s : Settings) :
    Except Failure (Path × Text) := do
  let o ← s.options t
  let input ← pathOf s.input
  let title := (Given.text? s.title).getD input.name
  let out ← pathOf s.out
  let source ← readSource t standardInput (some input)
  let code ← (MarkupCode.convert o source).mapError .conversion
  return (out, Preview.page title source code)

def runPreview (t : FileTree) (standardInput : Text.Bytes) (s : Settings) : Report :=
  match previewOf t standardInput s with
  | .error e => { tree := t, ending := .failure e }
  | .ok (out, page) => saveReport t out page s.force "preview" []

end Command

namespace Request

def paths : Request → List Path
  | .help _ => []
  | .run _ s => s.paths

def readsStandardInput : Request → Bool
  | .help _ => false
  | .run .convert s => Command.readsStandardInput ((Given.text? s.input).map .ofText)
  | .run .preview s =>
    match Command.pathOf s.input with
    | .ok p => Command.readsStandardInput (some p)
    | .error _ => false

def perform (t : FileTree) (standardInput : Text.Bytes) : Request → Report
  | .help topic => { tree := t, output := topic.help }
  | .run .convert s => Command.runConvert t standardInput s
  | .run .preview s => Command.runPreview t standardInput s

end Request

def run (t : FileTree) (standardInput : Text.Bytes) (arguments : List Text) : Report :=
  match Request.ofArguments arguments with
  | .error e => { tree := t, warnings := e.message, ending := .refusal e }
  | .ok request => request.perform t standardInput

end MarkupCode
