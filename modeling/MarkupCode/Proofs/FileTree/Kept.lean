import MarkupCode.Proofs.FileTree.Folders

/-!
# Trees that hold a file already

Putting an item where it is leaves a tree as it is, so writing a file that has the content already changes
nothing, and neither does making the folders for it, because a path that leads to a file has a folder for its
parent. A path that leads to a file goes on doing so when the tree changes at another place.
-/

namespace MarkupCode

theorem Entries.set_eq_self {α β : Type} [BEq α] [LawfulBEq α] {entries : List (α × β)} {name : α}
    {value : β} (h : entries.lookup name = some value) : Entries.set entries name value = entries := by
  induction entries with
  | nil => cases h
  | cons entry rest ih =>
    obtain ⟨n, v⟩ := entry
    unfold Entries.set
    by_cases hn : n = name
    · subst hn
      have hv : v = value := by simpa using h
      simp [hv]
    · have hbeq : (name == n) = false := by simpa using Ne.symm hn
      have hrest : rest.lookup name = some value := by simpa [List.lookup_cons, hbeq] using h
      simp [hn, ih hrest]

namespace FileTree

variable {t t' : FileTree} {p q : Path} {l : Location} {content : Text.Bytes}

theorem place_eq_self (l : t.Place) {i : Item} (hi : t.item? l.1 = some i)
    (h : t.item? l.1 = some .folder → i = .folder) : t.place l i h = t := by
  unfold place
  split
  · rfl
  · next hl =>
    have hlookup : t.items.lookup l.1 = some i := by simpa [item?, itemAt, hl] using hi
    have hitems : Entries.set t.items l.1 i = t.items := Entries.set_eq_self hlookup
    obtain ⟨items, home, above, there⟩ := t
    congr

/-- A file that has a content already is written with it again. -/
theorem writeFile_eq_self (h : t.LeadsTo p l) (hfile : t.file? l = some content) :
    t.writeFile p content = .ok t := by
  obtain ⟨place, hplace, rfl⟩ := h
  have hitem := item?_of_file? hfile
  have hfolder : t.item? place.1 ≠ some .folder := by simp [hitem]
  unfold writeFile
  rw [hplace, Outcome.ok_bind, dif_neg hfolder, place_eq_self place hitem]

theorem item?_origin (t : FileTree) (p : Path) : t.item? (t.origin p) = some .folder := by
  unfold origin
  split
  · exact t.home_folder
  · rfl

theorem Passes.append {l m : Location} {before behind : List Text}
    (h : t.Passes l (before ++ behind) m) : ∃ k, t.Passes l before k ∧ t.Passes k behind m := by
  induction before generalizing l with
  | nil => exact ⟨l, rfl, h⟩
  | cons name before ih =>
    obtain ⟨hl, hname, hrest⟩ := h
    obtain ⟨k, hbefore, hbehind⟩ := ih hrest
    exact ⟨k, ⟨hl, hname, hbefore⟩, hbehind⟩

/-- A path leads where its last name leads from the folder that its parent leads to. -/
theorem LeadsTo.exists_parent (h : t.LeadsTo p l) (hnames : p.names ≠ []) :
    ∃ k, t.LeadsTo p.parent k ∧ t.item? k = some .folder ∧ onward k p.name = l := by
  obtain ⟨anchor, names⟩ := p
  change names ≠ [] at hnames
  obtain ⟨hregular, hpasses⟩ := leadsTo_iff.1 h
  have hname : Path.name ⟨anchor, names⟩ = names.getLast hnames := by
    rw [Path.name, List.getLastD_eq_getLast?, List.getLast?_eq_some_getLast hnames]
    rfl
  rw [← List.dropLast_concat_getLast hnames] at hpasses hregular
  obtain ⟨k, hbefore, hfolder, -, honward⟩ := hpasses.append
  exact ⟨k, leadsTo_iff.2 ⟨hregular.beginning, hbefore⟩, hfolder, hname ▸ honward⟩

/-- A path that leads to a file has a folder for its parent. -/
theorem LeadsTo.find_parent (h : t.LeadsTo p l) (hfile : t.file? l = some content) :
    t.find p.parent = .ok .folder := by
  by_cases hnames : p.names = []
  · have horigin : t.origin p = l := by
      have hpasses := (leadsTo_iff.1 h).2
      rwa [hnames] at hpasses
    have hitem := item?_of_file? hfile
    rw [← horigin, item?_origin] at hitem
    cases hitem
  · obtain ⟨k, hleads, hfolder, -⟩ := h.exists_parent hnames
    exact hleads.find hfolder

/-- Unless it ends with two dots, a path leads to a location of its own name. -/
theorem LeadsTo.head?_eq (h : t.LeadsTo p l) (hnames : p.names ≠ []) (hup : p.name ≠ upDots) :
    l.head? = some p.name := by
  obtain ⟨k, -, -, rfl⟩ := h.exists_parent hnames
  rw [onward, if_neg hup]
  rfl

theorem contains_congr (h : t'.find p = t.find p) : t'.contains p = t.contains p := by
  unfold contains
  rw [h]

theorem read_congr (h : t'.find p = t.find p) : t'.read p = t.read p := by
  unfold read
  rw [h]

theorem read_eq_ok_iff : t.read p = .ok content ↔ t.find p = .ok (.file content) := by
  unfold read
  constructor
  · intro h
    split at h
    · next hfind => cases h; exact hfind
    · cases h
    · cases h
  · intro h
    rw [h]

/-- A file that is found is found again when the tree has changed elsewhere. -/
theorem ChangedAt.find_eq (h : ChangedAt t t' p) (hfind : t.find q = .ok (.file content))
    (hapart : ∀ l, t'.LeadsTo p l → ¬t'.LeadsTo q l) : t'.find q = t.find q := by
  obtain ⟨l, hleads, hitem⟩ := exists_of_find_ok hfind
  have hleads' : t'.LeadsTo q l := hleads.mono h.home_eq h.folder_kept
  have hsame : t'.file? l = t.file? l := Decidable.of_not_not fun hne => hapart l (h.file_eq l hne) hleads'
  have hfile : t'.file? l = some content := by rw [hsame, file?, hitem]
  rw [hfind, hleads'.find (item?_of_file? hfile)]

end FileTree
end MarkupCode
