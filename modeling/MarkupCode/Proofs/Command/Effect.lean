import MarkupCode.Proofs.Command.Saving

/-!
# What a run does to the tree

A run changes nothing but the file at its output path, and adds nothing but folders on the way there. A
run that fails changes no file at all, and adds folders only if it breaks off at them or at opening the
file. A run that succeeds leaves its product at the output path.
-/

namespace MarkupCode

namespace Command

/-- Saving a text breaks off, with this tree and error, at the folders or at opening the file. -/
def BreaksOff (t : FileTree) (p : Path) (text : Text) (t' : FileTree) (e : FileError) : Prop :=
  t.makeFolders p.parent = (t', .error e) ∨
    t.makeFolders p.parent = (t', .ok ()) ∧ e.path = p ∧
      t'.writeFile p (Text.encode text) = .error e.fault

namespace Saves

variable {t t' : FileTree} {p : Path} {text : Text} {force : Bool} {result : Except Failure Unit}

theorem changedAt (h : Saves t p text force t' result) : FileTree.ChangedAt t t' p := by
  have hwidened := FileTree.makeFolders_widenedAlong t p.parent
  cases h with
  | untold | taken => exact .refl t p
  | stuck _ _ hfolders | refused _ _ hfolders =>
    rw [hfolders] at hwidened
    exact hwidened.changedAt
  | written _ _ hfolders hwrite =>
    rw [hfolders] at hwidened
    exact (FileTree.changedAt_of_writeFile hwidened hwrite).1

theorem of_error {e : Failure} (h : Saves t p text force t' (.error e)) :
    (∀ l, t'.file? l = t.file? l) ∧
      (t' = t ∨ ∃ fault, e = .file fault ∧ BreaksOff t p text t' fault) := by
  have hwidened := FileTree.makeFolders_widenedAlong t p.parent
  cases h with
  | untold | taken => exact ⟨fun _ => rfl, .inl rfl⟩
  | stuck _ _ hfolders =>
    rw [hfolders] at hwidened
    exact ⟨hwidened.file?_eq, .inr ⟨_, rfl, .inl hfolders⟩⟩
  | refused _ _ hfolders hwrite =>
    rw [hfolders] at hwidened
    exact ⟨hwidened.file?_eq, .inr ⟨_, rfl, .inr ⟨hfolders, rfl, hwrite⟩⟩⟩

theorem of_ok (h : Saves t p text force t' (.ok ())) :
    ∃ l, t'.LeadsTo p l ∧ t'.file? l = some (Text.encode text) := by
  have hwidened := FileTree.makeFolders_widenedAlong t p.parent
  cases h with
  | written _ _ hfolders hwrite =>
    rw [hfolders] at hwidened
    exact (FileTree.changedAt_of_writeFile hwidened hwrite).2

end Saves
end Command

open CommandLine

/-- Without an output path a run leaves the tree as it is. With one it changes the tree at that path only;
when it fails, no file changes, and no folder comes to be unless the saving breaks off; when it succeeds,
the file that the path leads to holds what the run has made. -/
theorem run_changes_output_only (t : FileTree) (input : Text.Bytes) (arguments : List Text) :
    (out? arguments = none → (run t input arguments).tree = t) ∧
    (∀ p, out? arguments = some p → FileTree.ChangedAt t (run t input arguments).tree p) ∧
    ((run t input arguments).ending ≠ .success →
      (∀ l, (run t input arguments).tree.file? l = t.file? l) ∧
      ((run t input arguments).tree = t ∨
        ∃ p text e, product? t input arguments = some (p, text) ∧
          (run t input arguments).ending = .failure (.file e) ∧
          Command.BreaksOff t p text (run t input arguments).tree e)) ∧
    (∀ p, out? arguments = some p → (run t input arguments).ending = .success →
      ∃ text l, product? t input arguments = some (p, text) ∧
        (run t input arguments).tree.LeadsTo p l ∧
        (run t input arguments).tree.file? l = some (Text.encode text)) := by
  cases hproduct : product? t input arguments with
  | none =>
    obtain ⟨htree, hnone⟩ := run_of_no_product hproduct
    rw [htree]
    refine ⟨fun _ => rfl, fun p _ => .refl t p, fun _ => ⟨fun _ => rfl, .inl rfl⟩, ?_⟩
    intro p hp hsuccess
    rw [hnone hsuccess] at hp
    cases hp
  | some product =>
    obtain ⟨p, text⟩ := product
    obtain ⟨hout, htree, hending⟩ := run_of_product hproduct
    have hsaves := Command.saves_save t p text (forces arguments)
    rw [hout, htree, hending]
    generalize (Command.save t p text (forces arguments)).1 = t' at hsaves ⊢
    generalize (Command.save t p text (forces arguments)).2 = result at hsaves ⊢
    refine ⟨fun h => absurd h (Option.some_ne_none p), ?_, ?_, ?_⟩
    · intro q hq
      cases hq
      exact hsaves.changedAt
    · intro hfails
      cases result with
      | ok _ => exact absurd rfl hfails
      | error e =>
        obtain ⟨hfiles, hfolders⟩ := hsaves.of_error
        refine ⟨hfiles, hfolders.imp_right ?_⟩
        rintro ⟨fault, rfl, hbreaks⟩
        exact ⟨p, text, fault, rfl, rfl, hbreaks⟩
    · intro q hq hsuccess
      cases hq
      cases result with
      | error e => cases hsuccess
      | ok _ =>
        obtain ⟨l, hleads, hfile⟩ := hsaves.of_ok
        exact ⟨text, l, rfl, hleads, hfile⟩

end MarkupCode
