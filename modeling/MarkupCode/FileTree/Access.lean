import MarkupCode.FileTree.Basic
import MarkupCode.FileTree.Path
import MarkupCode.Text.Quoted

/-!
# Access by path

A path is walked name by name from the working folder or the root, and every name but the last must
lead to a folder. Two dots lead to the folder above. A tree is read, and a folder or a file put into
it, at the place that a path leads to; where that fails, the fault tells at which path.
-/

namespace MarkupCode

inductive FileFault
  | missing
  | taken
  | notFolder
  | isFolder
  | nameTooLong
  | nullCharacter
  deriving DecidableEq, Repr

structure FileError where
  fault : FileFault
  path : Path
  deriving DecidableEq, Repr

namespace FileError

def numbered (number : Nat) (reason : String) (p : Path) : String :=
  "[Errno " ++ toString number ++ "] " ++ reason ++ ": " ++ String.ofList (Text.quoted p.text)

def message (e : FileError) : String :=
  match e.fault with
  | .missing => numbered 2 "No such file or directory" e.path
  | .taken => numbered 17 "File exists" e.path
  | .notFolder => numbered 20 "Not a directory" e.path
  | .isFolder => numbered 21 "Is a directory" e.path
  | .nameTooLong => numbered 36 "File name too long" e.path
  | .nullCharacter => "embedded null byte"

end FileError

namespace FileTree

/-- The greatest length of a name and the least length of a path that is too long, in bytes. -/
def maxNameSize : Nat := 255

def pathSizeLimit : Nat := 4096

def size (s : Text) : Nat := (Text.encode s).length

def upDots : Text := ['.', '.']

def step (t : FileTree) (l : t.Place) (name : Text) : Except FileFault t.Place :=
  match h : t.item? l.1 with
  | none => .error .missing
  | some (.file _) => .error .notFolder
  | some .folder =>
    if name = upDots then .ok ⟨l.1.tail, t.item?_tail (by rw [l.2]; simp)⟩
    else if size name > maxNameSize then .error .nameTooLong
    else .ok ⟨name :: l.1, h⟩

def walk (t : FileTree) (l : t.Place) : List Text → Except FileFault t.Place
  | [] => .ok l
  | name :: names => t.step l name >>= (t.walk · names)

def homePlace (t : FileTree) : t.Place := ⟨t.home, t.item?_tail (by simp [item?, t.home_folder])⟩

def rootPlace (t : FileTree) : t.Place := ⟨[], rfl⟩

def locate (t : FileTree) (p : Path) : Except FileFault t.Place :=
  if '\x00' ∈ p.text then .error .nullCharacter
  else if size p.text ≥ pathSizeLimit then .error .nameTooLong
  else t.walk (if p.anchor = .home then t.homePlace else t.rootPlace) p.names

def find (t : FileTree) (p : Path) : Except FileFault Item := do
  match t.item? (← t.locate p).1 with
  | some i => .ok i
  | none => .error .missing

/-- Whether something is at a path. Names that are too long are a fault; other paths that lead
nowhere have nothing at them. -/
def contains (t : FileTree) (p : Path) : Except FileError Bool :=
  match t.find p with
  | .ok _ => .ok true
  | .error .nameTooLong => .error ⟨.nameTooLong, p⟩
  | .error _ => .ok false

def read (t : FileTree) (p : Path) : Except FileError Text.Bytes :=
  match t.find p with
  | .ok (.file content) => .ok content
  | .ok .folder => .error ⟨.isFolder, p⟩
  | .error f => .error ⟨f, p⟩

def makeFolder (t : FileTree) (p : Path) : Except FileFault FileTree := do
  let l ← t.locate p
  if h : t.item? l.1 = none then .ok (t.place l .folder (by simp [h])) else .error .taken

/-- A fault in making a folder counts for nothing when a folder is there. -/
def excuse (t : FileTree) (f : FileFault) (p : Path) : Except FileError Unit :=
  match t.find p with
  | .ok .folder => .ok ()
  | _ => .error ⟨f, p⟩

/-- Makes a folder and those above it that are missing. A folder that is there is left as it is. What
was made before a fault stays. -/
def makeFolders (t : FileTree) (p : Path) : FileTree × Except FileError Unit :=
  match t.makeFolder p with
  | .ok t' => (t', .ok ())
  | .error .missing =>
    if _h : p.names = [] then (t, .error ⟨.missing, p⟩)
    else match t.makeFolders p.parent with
      | (t', .error e) => (t', .error e)
      | (t', .ok ()) => match t'.makeFolder p with
        | .ok t'' => (t'', .ok ())
        | .error f => (t', t'.excuse f p)
  | .error f => (t, t.excuse f p)
termination_by p.names.length
decreasing_by
  simp only [Path.parent, List.length_dropLast]
  exact Nat.sub_lt (List.length_pos_iff.2 _h) Nat.one_pos

def writeFile (t : FileTree) (p : Path) (content : Text.Bytes) : Except FileFault FileTree := do
  let l ← t.locate p
  if h : t.item? l.1 = some .folder then .error .isFolder
  else .ok (t.place l (.file content) fun e => absurd e h)

end FileTree
end MarkupCode
