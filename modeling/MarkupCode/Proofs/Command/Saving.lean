import MarkupCode.Command.Product
import MarkupCode.Proofs.FileTree.Folders

/-!
# Saving and running

`Saves` lists the ways in which saving a text can end: at the guard, among the folders, at the file, or with
the text written. A run does nothing to the tree but save its product, if it gets as far as having one.
-/

namespace MarkupCode

namespace Command

inductive Saves (t : FileTree) (p : Path) (text : Text) (force : Bool) :
    FileTree → Except Failure Unit → Prop
  | untold {e : FileError} (h : t.contains p = .error e) : Saves t p text force t (.error (.file e))
  | taken (h : t.contains p = .ok true) (hforce : force = false) :
    Saves t p text force t (.error (.outputTaken p))
  | stuck {found : Bool} {t' : FileTree} {e : FileError} (h : t.contains p = .ok found)
    (hforce : found = true → force = true) (hfolders : t.makeFolders p.parent = (t', .error e)) :
    Saves t p text force t' (.error (.file e))
  | refused {found : Bool} {t' : FileTree} {f : FileFault} (h : t.contains p = .ok found)
    (hforce : found = true → force = true) (hfolders : t.makeFolders p.parent = (t', .ok ()))
    (hwrite : t'.writeFile p (Text.encode text) = .error f) :
    Saves t p text force t' (.error (.file ⟨f, p⟩))
  | written {found : Bool} {t' t'' : FileTree} (h : t.contains p = .ok found)
    (hforce : found = true → force = true) (hfolders : t.makeFolders p.parent = (t', .ok ()))
    (hwrite : t'.writeFile p (Text.encode text) = .ok t'') :
    Saves t p text force t'' (.ok ())

theorem saves_save (t : FileTree) (p : Path) (text : Text) (force : Bool) :
    Saves t p text force (save t p text force).1 (save t p text force).2 := by
  unfold save
  split
  · next e h => exact .untold h
  · next found h =>
    split
    · next hguard =>
      obtain ⟨hfound, hforce⟩ : found = true ∧ force = false := by simpa using hguard
      subst hfound
      exact .taken h hforce
    · next hguard =>
      have hforce : found = true → force = true := by simpa using hguard
      split
      · next hfolders => exact .stuck h hforce hfolders
      · next hfolders =>
        split
        · next hwrite => exact .written h hforce hfolders hwrite
        · next hwrite => exact .refused h hforce hfolders hwrite

def endingOf : Except Failure Unit → Ending
  | .ok _ => .success
  | .error e => .failure e

theorem saveReport_eq (t : FileTree) (p : Path) (text : Text) (force : Bool) (what : String)
    (warnings : Text) :
    (saveReport t p text force what warnings).tree = (save t p text force).1 ∧
      (saveReport t p text force what warnings).ending = endingOf (save t p text force).2 := by
  unfold saveReport
  split
  · next h => rw [h]; exact ⟨rfl, rfl⟩
  · next h => rw [h]; exact ⟨rfl, rfl⟩

end Command

/-- The settings of a preview give its output path. -/
theorem Command.pathOf_of_previewOf {t : FileTree} {input : Text.Bytes} {s : Settings}
    {outcome : Path × Text} (h : previewOf t input s = .ok outcome) : pathOf s.out = .ok outcome.1 := by
  obtain ⟨_, _, h⟩ := Outcome.exists_of_bind_ok h
  obtain ⟨_, _, h⟩ := Outcome.exists_of_bind_ok h
  obtain ⟨out, hout, h⟩ := Outcome.exists_of_bind_ok h
  obtain ⟨_, _, h⟩ := Outcome.exists_of_bind_ok h
  obtain ⟨_, _, h⟩ := Outcome.exists_of_bind_ok h
  cases h
  exact hout

namespace Request

variable {t : FileTree} {input : Text.Bytes} {r : Request}

theorem perform_of_product {p : Path} {text : Text} (h : r.product? t input = some (p, text)) :
    r.out? = some p ∧ (r.perform t input).tree = (Command.save t p text r.forces).1 ∧
      (r.perform t input).ending = Command.endingOf (Command.save t p text r.forces).2 := by
  unfold product? at h
  split at h
  · cases h
  · next s =>
    split at h
    · next code file hcode hout =>
      cases h
      have hperform : (run .convert s).perform t input = Command.runConvert t input s := rfl
      rw [hperform, Command.runConvert, hcode]
      simp only [hout]
      exact ⟨by rw [out?, hout]; rfl, Command.saveReport_eq ..⟩
    · cases h
  · next s =>
    cases hpreview : Command.previewOf t input s with
    | error e => rw [hpreview] at h; cases h
    | ok outcome =>
      rw [hpreview] at h
      cases h
      have hperform : (run .preview s).perform t input = Command.runPreview t input s := rfl
      rw [hperform, Command.runPreview, hpreview]
      refine ⟨?_, Command.saveReport_eq ..⟩
      rw [out?, Command.pathOf_of_previewOf hpreview]
      rfl

theorem perform_of_no_product (h : r.product? t input = none) :
    (r.perform t input).tree = t ∧ ((r.perform t input).ending = .success → r.out? = none) := by
  unfold product? at h
  split at h
  · exact ⟨rfl, fun _ => rfl⟩
  · next s =>
    have hperform : (run .convert s).perform t input = Command.runConvert t input s := rfl
    rw [hperform, Command.runConvert]
    cases hcode : Command.codeOf t input s with
    | error e => exact ⟨rfl, fun hending => nomatch hending⟩
    | ok code =>
      rw [hcode] at h
      cases hout : Given.text? s.out with
      | none => exact ⟨rfl, fun _ => by rw [out?, hout]; rfl⟩
      | some file => rw [hout] at h; cases h
  · next s =>
    have hperform : (run .preview s).perform t input = Command.runPreview t input s := rfl
    rw [hperform, Command.runPreview]
    cases hpreview : Command.previewOf t input s with
    | error e => exact ⟨rfl, fun hending => nomatch hending⟩
    | ok outcome => rw [hpreview] at h; cases h

end Request

namespace CommandLine

open Command

variable {t : FileTree} {input : Text.Bytes} {arguments : List Text}

/-- A run with a product saves it at the output path. -/
theorem run_of_product {p : Path} {text : Text} (h : product? t input arguments = some (p, text)) :
    out? arguments = some p ∧
      (run t input arguments).tree = (save t p text (forces arguments)).1 ∧
      (run t input arguments).ending = endingOf (save t p text (forces arguments)).2 := by
  unfold product? out? forces request? at *
  unfold run
  cases hrequest : Request.ofArguments arguments with
  | error e => rw [hrequest] at h; cases h
  | ok r =>
    rw [hrequest] at h
    exact Request.perform_of_product h

/-- A run without a product leaves the tree as it is, and has no output path where it succeeds. -/
theorem run_of_no_product (h : product? t input arguments = none) :
    (run t input arguments).tree = t ∧
      ((run t input arguments).ending = .success → out? arguments = none) := by
  unfold product? out? request? at *
  unfold run
  cases hrequest : Request.ofArguments arguments with
  | error e => exact ⟨rfl, fun _ => rfl⟩
  | ok r =>
    rw [hrequest] at h
    exact Request.perform_of_no_product h

end CommandLine
end MarkupCode
