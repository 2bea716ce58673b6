import MarkupCode.Proofs.FileTree.Leading

/-!
# Folders that are made

Making a folder with those above it leaves every item as it is, and what is new is a folder that a
beginning of the path leads to, also where the making breaks off. Writing a file then changes the tree at
one location, the one that the path of the file leads to.
-/

namespace MarkupCode

namespace Path

theorem take_all (p : Path) : p.take p.names.length = p := by
  unfold take
  rw [List.take_length]

theorem take_parent (p : Path) (n : Nat) : p.parent.take n = p.take (min n (p.names.length - 1)) := by
  unfold take parent
  rw [List.dropLast_eq_take, List.take_take]

end Path

namespace FileTree

variable {t t' t'' : FileTree} {p : Path}

namespace WidenedAlong

theorem folder_kept (h : WidenedAlong t t' p) (l : Location) (hl : t.item? l = some .folder) :
    t'.item? l = some .folder :=
  h.kept l .folder hl

theorem refl (t : FileTree) (p : Path) : WidenedAlong t t p where
  home_eq := rfl
  kept _ _ h := h
  added _ h := .inl h

theorem trans (h : WidenedAlong t t' p) (h' : WidenedAlong t' t'' p) : WidenedAlong t t'' p where
  home_eq := h'.home_eq.trans h.home_eq
  kept l i hl := h'.kept l i (h.kept l i hl)
  added l hl := by
    rcases h.added l hl with hnone | ⟨hfolder, n, hleads⟩
    · exact h'.added l hnone
    · exact .inr ⟨h'.kept l .folder hfolder, n, hleads.mono h'.home_eq h'.folder_kept⟩

theorem of_parent (h : WidenedAlong t t' p.parent) : WidenedAlong t t' p where
  home_eq := h.home_eq
  kept := h.kept
  added l hl := by
    rcases h.added l hl with hnone | ⟨hfolder, n, hleads⟩
    · exact .inl hnone
    · rw [Path.take_parent] at hleads
      exact .inr ⟨hfolder, _, hleads⟩

theorem file?_eq (h : WidenedAlong t t' p) (l : Location) : t'.file? l = t.file? l := by
  unfold file?
  cases hl : t.item? l with
  | some i => rw [h.kept l i hl]
  | none =>
    rcases h.added l hl with hnone | ⟨hfolder, -⟩
    · rw [hnone]
    · rw [hfolder]

theorem changedAt (h : WidenedAlong t t' p.parent) : ChangedAt t t' p where
  home_eq := h.home_eq
  file_eq l hl := absurd (h.file?_eq l) hl
  folder_kept := h.folder_kept
  folder_new l hl := by
    cases hitem : t.item? l with
    | some i =>
      rw [h.kept l i hitem] at hl
      exact .inl hl
    | none =>
      rcases h.added l hitem with hnone | ⟨-, hleads⟩
      · rw [hnone] at hl
        cases hl
      · exact .inr hleads

end WidenedAlong

theorem ChangedAt.refl (t : FileTree) (p : Path) : ChangedAt t t p :=
  (WidenedAlong.refl t p.parent).changedAt

theorem makeFolder_widenedAlong (h : t.makeFolder p = .ok t') : WidenedAlong t t' p := by
  obtain ⟨l, hl, hput⟩ := Outcome.exists_of_bind_ok h
  split at hput
  · next hnone =>
    cases hput
    have hkept : ∀ m i, t.item? m = some i → (t.place l .folder (by simp)).item? m = some i := by
      intro m i hm
      have hne : m ≠ l.1 := by
        rintro rfl
        rw [hnone] at hm
        cases hm
      rw [item?_place, if_neg hne, hm]
    refine ⟨home_place .., hkept, ?_⟩
    intro m hm
    rw [item?_place]
    split
    · next hml =>
      have hleads : t.LeadsTo (p.take p.names.length) m := by
        rw [Path.take_all]
        exact ⟨l, hl, hml.symm⟩
      exact .inr ⟨rfl, _, hleads.mono (home_place ..) fun k => hkept k .folder⟩
    · exact .inl hm
  · cases hput

/-- Also where the making breaks off, nothing but folders along the path has been added. -/
theorem makeFolders_widenedAlong (t : FileTree) (p : Path) : WidenedAlong t (t.makeFolders p).1 p := by
  fun_induction makeFolders t p with
  | case1 p t' h => exact makeFolder_widenedAlong h
  | case2 p _ _ => exact .refl t p
  | case3 p _ _ t' e h ih =>
    rw [h] at ih
    exact ih.of_parent
  | case4 p _ _ t' h t'' h' ih =>
    rw [h] at ih
    exact ih.of_parent.trans (makeFolder_widenedAlong h')
  | case5 p _ _ t' h f h' ih =>
    rw [h] at ih
    exact ih.of_parent
  | case6 p f _ _ => exact .refl t p

/-- Nothing is made where the folder is there. -/
theorem makeFolders_of_folder (h : t.find p = .ok .folder) : t.makeFolders p = (t, .ok ()) := by
  obtain ⟨m, ⟨l, hl, hm⟩, hfolder⟩ := exists_of_find_ok h
  have htaken : t.makeFolder p = .error .taken := by
    unfold makeFolder
    rw [hl]
    exact dif_neg (by rw [hm, hfolder]; exact Option.some_ne_none _)
  unfold makeFolders
  rw [htaken]
  simp only [excuse, h]

/-- A file is written at the location that its path leads to, where no folder is. -/
theorem exists_of_writeFile_ok {content : Text.Bytes} (h : t.writeFile p content = .ok t') :
    ∃ l, t.LeadsTo p l ∧ t'.home = t.home ∧ t.item? l ≠ some .folder ∧
      ∀ m, t'.item? m = if m = l then some (.file content) else t.item? m := by
  obtain ⟨l, hl, hput⟩ := Outcome.exists_of_bind_ok h
  split at hput
  · cases hput
  · next hfolder =>
    cases hput
    exact ⟨l.1, ⟨l, hl, rfl⟩, home_place .., hfolder, fun m => item?_place .. ⟩

/-- Folders along the parent of a path and a file at its end are all that a tree is changed by. -/
theorem changedAt_of_writeFile {content : Text.Bytes} (hwidened : WidenedAlong t t' p.parent)
    (h : t'.writeFile p content = .ok t'') :
    ChangedAt t t'' p ∧ ∃ l, t''.LeadsTo p l ∧ t''.file? l = some content := by
  obtain ⟨l, hleads, hhome, hl, hitem⟩ := exists_of_writeFile_ok h
  have hfolder : ∀ m, t'.item? m = some .folder → t''.item? m = some .folder := by
    intro m hm
    have hne : m ≠ l := by
      rintro rfl
      exact hl hm
    rw [hitem, if_neg hne, hm]
  have hleads' : t''.LeadsTo p l := hleads.mono hhome hfolder
  have hchanged := hwidened.changedAt
  refine ⟨⟨hhome.trans hwidened.home_eq, ?_, ?_, ?_⟩, l, hleads', ?_⟩
  · intro m hm
    rcases Decidable.em (m = l) with rfl | hne
    · exact hleads'
    · refine absurd ?_ hm
      rw [← hwidened.file?_eq m, file?, hitem, if_neg hne, file?]
  · exact fun m hm => hfolder m (hwidened.folder_kept m hm)
  · intro m hm
    have hm' : t'.item? m = some .folder := by
      rw [hitem] at hm
      split at hm
      · cases hm
      · exact hm
    rcases hchanged.folder_new m hm' with hold | ⟨n, hn⟩
    · exact .inl hold
    · exact .inr ⟨n, hn.mono hhome hfolder⟩
  · rw [file?, hitem, if_pos rfl]

theorem writeFile_of_leadsTo {l : Location} (h : t.LeadsTo p l) (hl : t.item? l ≠ some .folder)
    (content : Text.Bytes) : ∃ t', t.writeFile p content = .ok t' := by
  obtain ⟨place, hplace, rfl⟩ := h
  unfold writeFile
  rw [hplace]
  exact ⟨_, dif_neg hl⟩

end FileTree
end MarkupCode
