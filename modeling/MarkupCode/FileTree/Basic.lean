import MarkupCode.Entries
import MarkupCode.Text.Utf8

/-!
# File trees

A file tree holds files and folders at locations below a root, and knows which folder is the working
one. The folder of every item is there, and so is the working folder. `place` is the only operation
on it: it puts a file or a folder where the folder for it is, and never a file over a folder.
-/

namespace MarkupCode

/-- The names that lead to an item, from the innermost outwards; the root has none. -/
abbrev Location := List Text

inductive Item
  | file (content : Text.Bytes)
  | folder
  deriving DecidableEq, Repr

namespace FileTree

def itemAt (items : List (Location × Item)) (l : Location) : Option Item :=
  if l = [] then some .folder else items.lookup l

end FileTree

structure FileTree where
  items : List (Location × Item)
  home : Location
  /-- The folder of every item is there. -/
  folder_above : ∀ name l, FileTree.itemAt items (name :: l) ≠ none →
    FileTree.itemAt items l = some .folder
  home_folder : FileTree.itemAt items home = some .folder

namespace FileTree

def item? (t : FileTree) (l : Location) : Option Item := itemAt t.items l

@[simp] theorem item?_nil (t : FileTree) : t.item? [] = some .folder := rfl

theorem item?_tail (t : FileTree) {l : Location} (h : t.item? l ≠ none) :
    t.item? l.tail = some .folder := by
  cases l with
  | nil => rfl
  | cons name l => exact t.folder_above name l h

def folderChain : Location → List (Location × Item)
  | [] => []
  | name :: l => (name :: l, .folder) :: folderChain l

theorem lookup_folderChain (home l : Location) :
    (folderChain home).lookup l = if l ≠ [] ∧ l <:+ home then some .folder else none := by
  induction home with
  | nil => simp +contextual [folderChain, List.suffix_nil]
  | cons name h ih =>
    rw [folderChain, List.lookup_cons, ih]
    by_cases e : l = name :: h
    · simp [e]
    · have : (l == name :: h) = false := by simpa using e
      simp [this, List.suffix_cons_iff, e]

theorem itemAt_folderChain (home l : Location) :
    itemAt (folderChain home) l = if l <:+ home then some .folder else none := by
  unfold itemAt
  rw [lookup_folderChain]
  by_cases h : l = [] <;> simp [h]

def bare (home : Location) : FileTree where
  items := folderChain home
  home := home
  folder_above name l h := by
    rw [itemAt_folderChain] at h ⊢
    split at h
    · next hs => rw [if_pos ((List.suffix_cons name l).trans hs)]
    · exact absurd rfl h
  home_folder := by rw [itemAt_folderChain]; simp

/-- A location in a folder of the tree; an item need not be there. -/
abbrev Place (t : FileTree) := { l : Location // t.item? l.tail = some .folder }

theorem itemAt_set {items : List (Location × Item)} {l : Location} (hl : l ≠ []) (i : Item)
    (m : Location) :
    itemAt (Entries.set items l i) m = if m = l then some i else itemAt items m := by
  unfold itemAt
  rw [Entries.lookup_set]
  by_cases hm : m = []
  · subst hm; simp [Ne.symm hl]
  · simp only [hm, if_false, beq_iff_eq]

/-- Puts an item at a place. Where a folder is, only a folder may be put. -/
def place (t : FileTree) (l : t.Place) (i : Item) (h : t.item? l.1 = some .folder → i = .folder) :
    FileTree :=
  if hl : l.1 = [] then t
  else
    { items := Entries.set t.items l.1 i
      home := t.home
      folder_above := fun name m hm => by
        rw [itemAt_set hl] at hm ⊢
        split at hm
        · next e =>
          have hf : itemAt t.items m = some .folder := by simpa [item?, ← e] using l.2
          split
          · next e' => rw [h (by rw [← e']; exact hf)]
          · exact hf
        · have hf := t.folder_above name m hm
          split
          · next e => rw [h (by rw [← e]; exact hf)]
          · exact hf
      home_folder := by
        rw [itemAt_set hl]
        split
        · next e => rw [h (by rw [← e]; exact t.home_folder)]
        · exact t.home_folder }

theorem item?_place (t : FileTree) (l : t.Place) (i : Item)
    (h : t.item? l.1 = some .folder → i = .folder) (m : Location) :
    (t.place l i h).item? m = if m = l.1 then some i else t.item? m := by
  unfold place
  split
  · next hl =>
    have hi : i = .folder := h (by rw [hl]; rfl)
    split
    · next e => rw [e, hl, hi]; rfl
    · rfl
  · next hl => exact itemAt_set hl i m

@[simp] theorem home_place (t : FileTree) (l : t.Place) (i : Item)
    (h : t.item? l.1 = some .folder → i = .folder) : (t.place l i h).home = t.home := by
  unfold place
  split <;> rfl

end FileTree
end MarkupCode
