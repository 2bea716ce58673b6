import MarkupCode.FileTree.Access

/-!
# What becomes of a tree

A path leads to a location when its way passes through folders only; an item need not be there. It takes
a detour when two dots lead it up again from where nothing is. `ChangedAt` and `WidenedAlong` say of two
trees how little they differ: the one allows for a file and the folders on the way to it, the other for
folders alone.
-/

namespace MarkupCode

def Path.take (p : Path) (n : Nat) : Path := { p with names := p.names.take n }

namespace FileTree

def file? (t : FileTree) (l : Location) : Option Text.Bytes :=
  match t.item? l with
  | some (.file content) => some content
  | _ => none

def LeadsTo (t : FileTree) (p : Path) (l : Location) : Prop :=
  ∃ place, t.locate p = .ok place ∧ place.1 = l

/-- Some two dots of a path stand behind a beginning that leads nowhere. -/
def Detours (t : FileTree) (p : Path) : Prop :=
  ∃ n, n < p.names.length ∧ p.names[n]? = some upDots ∧ t.find (p.take n) = .error .missing

instance (found : Except FileFault Item) : Decidable (found = .error .missing) :=
  match found with
  | .error f => decidable_of_iff (f = .missing) ⟨congrArg _, Except.error.inj⟩
  | .ok _ => isFalse nofun

instance (t : FileTree) (p : Path) : Decidable (t.Detours p) :=
  inferInstanceAs (Decidable (∃ n, n < p.names.length ∧ _))

structure WidenedAlong (t t' : FileTree) (p : Path) : Prop where
  home_eq : t'.home = t.home
  kept : ∀ l i, t.item? l = some i → t'.item? l = some i
  added : ∀ l, t.item? l = none →
    t'.item? l = none ∨ t'.item? l = some .folder ∧ ∃ n, t'.LeadsTo (p.take n) l

/-- Two trees have the same files, but for the one that a path leads to, and the same folders, but for
those along the path's parent that only the second tree has. -/
structure ChangedAt (t t' : FileTree) (p : Path) : Prop where
  home_eq : t'.home = t.home
  file_eq : ∀ l, t'.file? l ≠ t.file? l → t'.LeadsTo p l
  folder_kept : ∀ l, t.item? l = some .folder → t'.item? l = some .folder
  folder_new : ∀ l, t'.item? l = some .folder →
    t.item? l = some .folder ∨ ∃ n, t'.LeadsTo (p.parent.take n) l

end FileTree
end MarkupCode
