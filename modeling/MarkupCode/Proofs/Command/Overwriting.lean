import MarkupCode.Proofs.Command.Saving

/-!
# Files that are there

A run that is not forced keeps the content of every file, unless its output path takes a detour: where
two dots lead up again from a folder that is only made for the output, the path leads nowhere before the
folder is made and may lead to a file afterwards. Without such a detour files are kept by any row of runs.
-/

namespace MarkupCode

open CommandLine

variable {t : FileTree} {l : Location} {content : Text.Bytes}

/-- What keeps a file in a run that is not forced. -/
theorem file?_run_or_detoursTo {call : Call} (hforce : forces call.2 = false)
    (hfile : t.file? l = some content) :
    (run t call.1 call.2).tree.file? l = some content ∨ DetoursTo l t call := by
  cases hproduct : product? t call.1 call.2 with
  | none =>
    rw [(run_of_no_product hproduct).1]
    exact .inl hfile
  | some product =>
    obtain ⟨p, text⟩ := product
    obtain ⟨hout, htree, hending⟩ := run_of_product hproduct
    have hsaves := Command.saves_save t p text (forces call.2)
    unfold DetoursTo
    rw [htree, hending]
    rw [hforce] at hsaves ⊢
    generalize (Command.save t p text false).1 = t₁ at hsaves ⊢
    generalize (Command.save t p text false).2 = result at hsaves ⊢
    cases hsaves with
    | untold | taken => exact .inl hfile
    | stuck _ _ hfolders | refused _ _ hfolders =>
      have hwidened := FileTree.makeFolders_widenedAlong t p.parent
      rw [hfolders] at hwidened
      exact .inl ((hwidened.file?_eq l).trans hfile)
    | written hfound hguard hfolders hwrite =>
      have hwidened := FileTree.makeFolders_widenedAlong t p.parent
      rw [hfolders] at hwidened
      rcases Decidable.em (t₁.file? l = t.file? l) with heq | hne
      · exact .inl (heq.trans hfile)
      obtain ⟨m, hm, hhome, -, -⟩ := FileTree.exists_of_writeFile_ok hwrite
      have hleads : t₁.LeadsTo p l := (FileTree.changedAt_of_writeFile hwidened hwrite).1.file_eq l hne
      have hitem := FileTree.item?_of_file? hfile
      rw [hm.unique hhome hleads] at hm
      rcases hm.leadsTo_or_detours hwidened.home_eq hwidened.kept (by simp [hitem]) with hold | hdetours
      · rw [hold.contains hitem] at hfound
        cases hfound
        exact absurd (hguard rfl) Bool.false_ne_true
      · exact .inr ⟨p, hout, hdetours, rfl, hleads⟩

/-- Runs that are not forced keep a file as long as none of them takes a detour to it. -/
theorem runAll_keeps_file {calls : List Call} (hforce : ∀ call ∈ calls, forces call.2 = false)
    (hdetour : EachCall (fun t call => ¬DetoursTo l t call) t calls)
    (hfile : t.file? l = some content) : (runAll t calls).file? l = some content := by
  induction calls generalizing t with
  | nil => exact hfile
  | cons call calls ih =>
    obtain ⟨hfirst, hothers⟩ := List.forall_mem_cons.1 hforce
    obtain ⟨hstraight, hrest⟩ := hdetour
    exact ih hothers hrest ((file?_run_or_detoursTo hfirst hfile).resolve_right hstraight)

def shelf : FileTree :=
  let file := (FileTree.bare []).place ⟨["b.txt".toList], rfl⟩ (.file (Text.encode "keep".toList))
    (by decide)
  file.place ⟨["d".toList], rfl⟩ .folder (by decide)

def convertTo (out : String) : List Text := ["convert".toList, "--out".toList, out.toList]

def previewTo (out : String) : List Text :=
  ["preview".toList, "--input".toList, "b.txt".toList, "--out".toList, out.toList]

/-- The first path goes up from a folder that is there, the second one goes nowhere but down. -/
def straightCalls : List Call :=
  [(Text.encode "x".toList, convertTo "d/../c.txt"), ([], previewTo "e/b.txt")]

theorem runAll_keeps_file_shelf :
    (∀ call ∈ straightCalls, forces call.2 = false) ∧
      EachCall (fun t call => ¬DetoursTo ["b.txt".toList] t call) shelf straightCalls ∧
      shelf.file? ["b.txt".toList] = some (Text.encode "keep".toList) ∧
      (runAll shelf straightCalls).file? ["b.txt".toList] = some (Text.encode "keep".toList) := by
  have hforce : ∀ call ∈ straightCalls, forces call.2 = false := by decide
  have hdetour : EachCall (fun t call => ¬DetoursTo ["b.txt".toList] t call) shelf straightCalls := by
    refine ⟨?_, ?_, trivial⟩
    · rintro ⟨p, hp, hdetours, -⟩
      obtain rfl : Path.ofText "d/../c.txt".toList = p := Option.some.inj (.trans (by decide) hp)
      exact absurd hdetours (by decide +kernel)
    · rintro ⟨p, hp, hdetours, -⟩
      obtain rfl : Path.ofText "e/b.txt".toList = p := Option.some.inj (.trans (by decide) hp)
      exact FileTree.not_detours_of_notMem (by decide) hdetours
  have hfile : shelf.file? ["b.txt".toList] = some (Text.encode "keep".toList) := by decide
  exact ⟨hforce, hdetour, hfile, runAll_keeps_file hforce hdetour hfile⟩

/-- Up from a folder that is only made for the output, the path leads to a file that is there. -/
theorem run_overwrites_by_detour :
    forces (convertTo "a/../b.txt") = false ∧
      shelf.file? ["b.txt".toList] = some (Text.encode "keep".toList) ∧
      (run shelf (Text.encode "x".toList) (convertTo "a/../b.txt")).tree.file? ["b.txt".toList] =
        some (Text.encode "_text \"x\"\n".toList) := by
  refine ⟨by decide, by decide, by decide +kernel⟩

end MarkupCode
