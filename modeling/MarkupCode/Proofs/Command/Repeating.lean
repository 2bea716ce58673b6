import MarkupCode.Command.Sources
import MarkupCode.Proofs.Command.Effect
import MarkupCode.Proofs.Command.Surfaces
import MarkupCode.Proofs.FileTree.Kept

/-!
# Running a command line again

What a run makes depends on the tree only through the files that it reads. A run that succeeds leaves these
as they are unless its output is one of them, so the same command line makes the same again: forced, it
leaves tree and report as they were, and otherwise it finds its output taken. Of any number of repetitions
that are not forced, one succeeds at most.
-/

namespace MarkupCode

/-! ### What a product depends on -/

/-- What is read where something is found is the content of a file. -/
theorem FileTree.exists_file_of_ok {α : Type} {t : FileTree} {p : Path} {e : Failure}
    {k : Text.Bytes → Except Failure α} {a : α}
    (h : ((t.contains p).mapError .file >>= fun found =>
      if found = true then (t.read p).mapError .file >>= k else throw e) = .ok a) :
    ∃ content, t.find p = .ok (.file content) := by
  obtain ⟨found, -, h⟩ := Outcome.exists_of_bind_ok h
  split at h
  · obtain ⟨content, hread, -⟩ := Outcome.exists_of_bind_ok h
    exact ⟨content, read_eq_ok_iff.1 (Outcome.of_mapError_ok hread)⟩
  · cases h

theorem Settings.options_congr {t t' : FileTree} {s : Settings}
    (h : ∀ f, Given.text? s.config = some f → t'.find (.ofText f) = t.find (.ofText f)) :
    s.options t' = s.options t := by
  unfold options
  cases hconfig : Given.text? s.config with
  | none => rfl
  | some f =>
    have hfind := h f hconfig
    simp only [FileTree.contains_congr hfind, FileTree.read_congr hfind]

theorem Settings.exists_file_of_options {t : FileTree} {s : Settings} {f : Text} {o : Options}
    (h : s.options t = .ok o) (hconfig : Given.text? s.config = some f) :
    ∃ content, t.find (.ofText f) = .ok (.file content) := by
  unfold options at h
  simp only [hconfig] at h
  exact FileTree.exists_file_of_ok h

namespace Command

variable {t t' : FileTree} {input : Text.Bytes} {s : Settings} {p : Path} {text : Text} {force : Bool}

theorem exists_file_of_readSource {source : Text} (h : readSource t input (some p) = .ok source)
    (hfile : readsStandardInput (some p) = false) : ∃ content, t.find p = .ok (.file content) := by
  unfold readSource at h
  simp only [hfile, Bool.false_eq_true, if_false] at h
  exact FileTree.exists_file_of_ok h

theorem readSource_congr {q : Option Path}
    (h : ∀ p, q = some p → readsStandardInput q = false → t'.find p = t.find p) :
    readSource t' input q = readSource t input q := by
  cases q with
  | none => rfl
  | some p =>
    unfold readSource
    by_cases hstandard : readsStandardInput (some p) = true
    · simp only [hstandard, if_true]
    · have hfind := h p rfl (Bool.eq_false_iff.2 hstandard)
      simp only [FileTree.contains_congr hfind, FileTree.read_congr hfind]

theorem codeOf_congr (hconfig : s.options t' = s.options t)
    (hinput : readSource t' input ((Given.text? s.input).map .ofText) =
      readSource t input ((Given.text? s.input).map .ofText)) : codeOf t' input s = codeOf t input s := by
  unfold codeOf
  rw [hconfig, hinput]

theorem previewOf_congr (hconfig : s.options t' = s.options t)
    (hinput : ∀ q, pathOf s.input = .ok q → readSource t' input (some q) = readSource t input (some q)) :
    previewOf t' input s = previewOf t input s := by
  unfold previewOf
  rw [hconfig]
  cases hpath : pathOf s.input with
  | error e => rfl
  | ok q => simp only [Outcome.ok_bind, hinput q hpath]

/-- Saving a text where it is changes nothing, and is refused unless it is forced. -/
theorem save_of_held {l : Location} (h : t.LeadsTo p l) (hfile : t.file? l = some (Text.encode text)) :
    save t p text force = (t, if force then .ok () else .error (.outputTaken p)) := by
  have hcontains := h.contains (FileTree.item?_of_file? hfile)
  have hfolders := FileTree.makeFolders_of_folder (h.find_parent hfile)
  have hwrite := FileTree.writeFile_eq_self h hfile
  unfold save
  cases force <;> simp [hcontains, hfolders, hwrite]

/-- A report of success is of a text that was saved. -/
theorem save_of_success {report : Report} {what : String} {warnings : Text}
    (h : report = saveReport t p text force what warnings) (hsuccess : report.ending = .success) :
    save t p text force = (report.tree, .ok ()) ∧ report.warnings = warnings := by
  rw [saveReport] at h
  split at h
  · next hsave =>
    subst h
    exact ⟨hsave, rfl⟩
  · subst h
    cases hsuccess

end Command

namespace Request

variable {t t' : FileTree} {input : Text.Bytes} {r : Request} {p q : Path} {text : Text}

theorem product?_convert_eq_some_iff {s : Settings} :
    (run .convert s).product? t input = some (p, text) ↔
      ∃ code file, Command.codeOf t input s = .ok code ∧ Given.text? s.out = some file ∧
        p = .ofText file ∧ text = code ++ ['\n'] := by
  constructor
  · intro h
    simp only [product?] at h
    split at h
    · next code file hcode hout =>
      cases h
      exact ⟨code, file, hcode, hout, rfl, rfl⟩
    · cases h
  · rintro ⟨code, file, hcode, hout, rfl, rfl⟩
    simp only [product?, hcode, hout]

theorem product?_preview_eq_some_iff {s : Settings} :
    (run .preview s).product? t input = some (p, text) ↔ Command.previewOf t input s = .ok (p, text) := by
  simp only [product?]
  cases Command.previewOf t input s with
  | error e => exact ⟨nofun, nofun⟩
  | ok product => exact ⟨fun h => congrArg _ (Option.some.inj h), fun h => congrArg _ (Except.ok.inj h)⟩

/-- A request whose files are the same in two trees has the same product in both. -/
theorem product?_congr (h : ∀ q ∈ r.sources, t'.find q = t.find q) :
    r.product? t' input = r.product? t input := by
  have hconfig : ∀ q, r.config? = some q → t'.find q = t.find q := fun q hq =>
    h q (List.mem_append_left _ (Option.mem_toList.2 hq))
  have hinput : ∀ q, r.input? = some q → Command.readsStandardInput r.input? = false →
      t'.find q = t.find q := by
    intro q hq hfile
    refine h q (List.mem_append_right _ ?_)
    rw [hfile]
    exact Option.mem_toList.2 hq
  cases r with
  | help topic => rfl
  | run c s =>
    have hoptions : s.options t' = s.options t :=
      Settings.options_congr fun f hf => hconfig _ (congrArg (Option.map Path.ofText) hf)
    cases c with
    | convert =>
      simp only [product?, Command.codeOf_congr hoptions (Command.readSource_congr hinput)]
    | preview =>
      have hsource : ∀ q, Command.pathOf s.input = .ok q →
          Command.readSource t' input (some q) = Command.readSource t input (some q) := by
        intro q hq
        have hgiven : input? (.run .preview s) = some q := congrArg Except.toOption hq
        rw [hgiven] at hinput
        exact Command.readSource_congr hinput
      simp only [product?, Command.previewOf_congr hoptions hsource]

/-- What a run reads that has a product is in files. -/
theorem exists_file_of_product (h : r.product? t input = some (p, text)) (hq : q ∈ r.sources) :
    ∃ content, t.find q = .ok (.file content) := by
  cases r with
  | help topic => cases h
  | run c s =>
    obtain ⟨⟨o, hoptions⟩, source, hread⟩ : (∃ o, s.options t = .ok o) ∧
        ∃ source, Command.readSource t input (run c s).input? = .ok source := by
      cases c with
      | convert =>
        obtain ⟨code, file, hcode, -⟩ := product?_convert_eq_some_iff.1 h
        obtain ⟨o, hoptions, hcode⟩ := Outcome.exists_of_bind_ok hcode
        obtain ⟨source, hread, -⟩ := Outcome.exists_of_bind_ok hcode
        exact ⟨⟨o, hoptions⟩, source, hread⟩
      | preview =>
        obtain ⟨o, hoptions, h⟩ := Outcome.exists_of_bind_ok (product?_preview_eq_some_iff.1 h)
        obtain ⟨file, hfile, h⟩ := Outcome.exists_of_bind_ok h
        obtain ⟨_, -, h⟩ := Outcome.exists_of_bind_ok h
        obtain ⟨source, hread, -⟩ := Outcome.exists_of_bind_ok h
        have hgiven : input? (.run .preview s) = some file := congrArg Except.toOption hfile
        exact ⟨⟨o, hoptions⟩, source, by rw [hgiven]; exact hread⟩
    rcases List.mem_append.1 hq with hconfig | hinput
    · obtain ⟨f, hf, rfl⟩ := Option.map_eq_some_iff.1 (Option.mem_toList.1 hconfig)
      exact Settings.exists_file_of_options hoptions hf
    · split at hinput
      · cases hinput
      · next hfile =>
        have hgiven := Option.mem_toList.1 hinput
        rw [hgiven] at hread hfile
        exact Command.exists_file_of_readSource hread (Bool.eq_false_iff.2 hfile)

/-- The product decides all that a run reports besides the tree. -/
theorem exists_perform_eq_saveReport (r : Request) (input : Text.Bytes) (p : Path) (text : Text) :
    ∃ what warnings, ∀ t, r.product? t input = some (p, text) →
      r.perform t input = Command.saveReport t p text r.forces what warnings := by
  cases r with
  | help topic => exact ⟨"", [], nofun⟩
  | run c s =>
    cases c with
    | convert =>
      refine ⟨"Falco.Markup", if text = ['\n'] then Command.emptyWarning s else [], fun t h => ?_⟩
      obtain ⟨code, file, hcode, hout, rfl, rfl⟩ := product?_convert_eq_some_iff.1 h
      have hempty : (code ++ ['\n'] = ['\n']) = (code = []) := by simp
      simp only [perform, Command.runConvert, hcode, hout, hempty, forces]
    | preview =>
      refine ⟨"preview", [], fun t h => ?_⟩
      simp only [perform, Command.runPreview, product?_preview_eq_some_iff.1 h, forces]

end Request

open CommandLine

variable {t : FileTree} {input : Text.Bytes} {arguments : List Text} {p : Path}

/-- A run with an output path that succeeds has changed the tree there, to hold what the run made. -/
theorem CommandLine.changedAt_of_success (hout : out? arguments = some p)
    (hsuccess : (run t input arguments).ending = .success) :
    ∃ text l, product? t input arguments = some (p, text) ∧
      FileTree.ChangedAt t (run t input arguments).tree p ∧ (run t input arguments).tree.LeadsTo p l ∧
      (run t input arguments).tree.file? l = some (Text.encode text) := by
  cases hproduct : product? t input arguments with
  | none =>
    rw [(run_of_no_product hproduct).2 hsuccess] at hout
    cases hout
  | some product =>
    obtain ⟨p', text⟩ := product
    obtain ⟨hout', htree, hending⟩ := run_of_product hproduct
    obtain rfl : p' = p := Option.some.inj (hout'.symm.trans hout)
    rw [hsuccess] at hending
    rw [htree]
    have hsaves := Command.saves_save t p' text (forces arguments)
    generalize (Command.save t p' text (forces arguments)).1 = t' at hsaves ⊢
    generalize (Command.save t p' text (forces arguments)).2 = result at hsaves hending
    cases result with
    | error e => cases hending
    | ok _ =>
      obtain ⟨l, hleads, hfile⟩ := hsaves.of_ok
      exact ⟨text, l, rfl, hsaves.changedAt, hleads, hfile⟩

/-- Where the output path leads to a file, a run that is not forced fails and leaves the tree as it is. -/
theorem CommandLine.run_of_held {l : Location} {content : Text.Bytes} (hout : out? arguments = some p)
    (hforce : forces arguments = false) (hleads : t.LeadsTo p l) (hfile : t.file? l = some content) :
    (run t input arguments).tree = t ∧ (run t input arguments).ending ≠ .success := by
  cases hproduct : product? t input arguments with
  | none =>
    obtain ⟨htree, hnone⟩ := run_of_no_product hproduct
    refine ⟨htree, fun hsuccess => ?_⟩
    rw [hnone hsuccess] at hout
    cases hout
  | some product =>
    obtain ⟨p', text⟩ := product
    obtain ⟨hout', htree, hending⟩ := run_of_product hproduct
    obtain rfl : p' = p := Option.some.inj (hout'.symm.trans hout)
    have htaken : Command.save t p' text false = (t, .error (.outputTaken p')) := by
      unfold Command.save
      rw [hleads.contains (FileTree.item?_of_file? hfile)]
      rfl
    rw [htree, hending, hforce, htaken]
    exact ⟨rfl, nofun⟩

/-- Of runs of one command line that is not forced, none succeeds once its output is there. -/
theorem CommandLine.successes_of_held {l : Location} {content : Text.Bytes} (hout : out? arguments = some p)
    (hforce : forces arguments = false) (hleads : t.LeadsTo p l) (hfile : t.file? l = some content) (n : Nat) :
    successes t (List.replicate n (input, arguments)) = 0 := by
  induction n with
  | zero => rfl
  | succ n ih =>
    obtain ⟨htree, hending⟩ : (run t input arguments).tree = t ∧ (run t input arguments).ending ≠ .success :=
      run_of_held hout hforce hleads hfile
    rw [List.replicate_succ, successes, if_neg hending, htree, Nat.zero_add]
    exact ih

theorem CommandLine.successes_le_one (hout : out? arguments = some p) (hforce : forces arguments = false)
    (t : FileTree) (input : Text.Bytes) (n : Nat) :
    successes t (List.replicate n (input, arguments)) ≤ 1 := by
  induction n generalizing t with
  | zero => exact Nat.zero_le 1
  | succ n ih =>
    rw [List.replicate_succ, successes]
    split
    · next hsuccess =>
      obtain ⟨text, l, -, -, hleads, hfile⟩ := changedAt_of_success hout hsuccess
      exact Nat.le_of_eq (congrArg (1 + ·) (successes_of_held hout hforce hleads hfile n))
    · rw [Nat.zero_add]
      exact ih _

theorem runAll_replicate {call : Call} (h : (run t call.1 call.2).tree = t) (n : Nat) :
    runAll t (List.replicate n call) = t := by
  induction n with
  | zero => rfl
  | succ n ih =>
    rw [List.replicate_succ, runAll, h]
    exact ih

/-- A run that succeeds saves its product, and so does the same command line in the tree that it leaves, unless
its output path leads to a file that it reads. -/
theorem CommandLine.exists_saveReport_again {report : Report} (hrun : run t input arguments = report)
    (hout : out? arguments = some p) (hsuccess : report.ending = .success)
    (hapart : ∀ q ∈ sources arguments, ∀ l, report.tree.LeadsTo p l → ¬report.tree.LeadsTo q l) :
    ∃ text what warnings,
      report = Command.saveReport t p text (forces arguments) what warnings ∧
      run report.tree input arguments =
        Command.saveReport report.tree p text (forces arguments) what warnings ∧
      Command.save report.tree p text (forces arguments) =
        (report.tree, if forces arguments then .ok () else .error (.outputTaken p)) := by
  subst hrun
  obtain ⟨text, l, hproduct, hchanged, hleads, hfile⟩ := changedAt_of_success hout hsuccess
  obtain ⟨r, hrequest, hmade⟩ := Option.bind_eq_some_iff.1 hproduct
  have hforces : forces arguments = r.forces := by rw [forces, hrequest]; rfl
  have hsources : sources arguments = r.sources := by rw [sources, hrequest]; rfl
  have hkept : ∀ q ∈ r.sources, (run t input arguments).tree.find q = t.find q := by
    intro q hq
    obtain ⟨content, hfind⟩ := Request.exists_file_of_product hmade hq
    exact hchanged.find_eq hfind (hapart q (hsources ▸ hq))
  have hmade' := (Request.product?_congr hkept).trans hmade
  obtain ⟨what, warnings, hreport⟩ := r.exists_perform_eq_saveReport input p text
  rw [hforces]
  exact ⟨text, what, warnings, (run_of_request hrequest t input).trans (hreport t hmade),
    (run_of_request hrequest _ input).trans (hreport _ hmade'), Command.save_of_held hleads hfile⟩

/-- A run with an output path has succeeded, and the path leads to none of the files that it read. Run again,
the same command line reads and makes the same: forced, it succeeds with the same report in the same tree,
otherwise it finds its output taken and changes nothing. -/
theorem run_again {report : Report} (hrun : run t input arguments = report)
    (hout : out? arguments = some p) (hsuccess : report.ending = .success)
    (hapart : ∀ q ∈ sources arguments, ∀ l, report.tree.LeadsTo p l → ¬report.tree.LeadsTo q l) :
    (forces arguments = true → run report.tree input arguments = report) ∧
    (forces arguments = false →
      run report.tree input arguments =
        { tree := report.tree, warnings := report.warnings, ending := .failure (.outputTaken p) } ∧
      ∀ u n, successes u (List.replicate n (input, arguments)) ≤ 1) ∧
    ∀ n, runAll t (List.replicate (n + 1) (input, arguments)) = report.tree := by
  obtain ⟨text, what, warnings, hfirst, hsecond, hsaved⟩ :=
    exists_saveReport_again hrun hout hsuccess hapart
  obtain ⟨hsave, hwarnings⟩ := Command.save_of_success hfirst hsuccess
  refine ⟨fun hforce => ?_, fun hforce => ⟨?_, fun u => successes_le_one hout hforce u input⟩, fun n => ?_⟩
  · rw [hforce, if_pos rfl] at hsaved
    rw [hforce] at hsave hfirst hsecond
    calc run report.tree input arguments
      _ = Command.saveReport report.tree p text true what warnings := hsecond
      _ = Command.saveReport t p text true what warnings := by
        rw [Command.saveReport, Command.saveReport, hsaved, hsave]
      _ = report := hfirst.symm
  · rw [hforce] at hsaved hsecond
    rw [hsecond, Command.saveReport, hsaved, hwarnings]
    rfl
  · have hstill : (run report.tree input arguments).tree = report.tree := by
      rw [hsecond, (Command.saveReport_eq ..).1, hsaved]
    rw [List.replicate_succ, runAll, hrun]
    exact runAll_replicate hstill n

/-- The page goes to a folder that is yet to be made, by a way that goes up from another one. -/
def deskSaving : List Text := deskConversion ++ ["--out".toList, "e/../f/c.fs".toList]

theorem run_again_desk :
    ((run desk [] deskSaving).ending = .success ∧
      (run (run desk [] deskSaving).tree [] deskSaving).ending =
        .failure (.outputTaken (.ofText "e/../f/c.fs".toList)) ∧
      successes desk (List.replicate 3 ([], deskSaving)) ≤ 1 ∧
      runAll desk (List.replicate 3 ([], deskSaving)) = (run desk [] deskSaving).tree) ∧
    (run desk [] (deskSaving ++ ["--force".toList])).ending = .success ∧
      run (run desk [] (deskSaving ++ ["--force".toList])).tree [] (deskSaving ++ ["--force".toList]) =
        run desk [] (deskSaving ++ ["--force".toList]) := by
  have hapart : ∀ t : FileTree, ∀ q ∈ [Path.ofText "a.html".toList], ∀ l,
      t.LeadsTo (.ofText "e/../f/c.fs".toList) l → ¬t.LeadsTo q l := by
    intro t q hq l hout hsource
    obtain rfl := List.mem_singleton.1 hq
    have hname := hout.head?_eq (by decide) (by decide)
    rw [hsource.head?_eq (by decide) (by decide)] at hname
    exact absurd hname (by decide)
  have hsaved : (run desk [] deskSaving).ending = .success := by decide +kernel
  have hforced : (run desk [] (deskSaving ++ ["--force".toList])).ending = .success := by decide +kernel
  have hsources : sources deskSaving = [.ofText "a.html".toList] := by decide +kernel
  have hsources' : sources (deskSaving ++ ["--force".toList]) = [.ofText "a.html".toList] := by
    decide +kernel
  obtain ⟨-, htaken, hall⟩ := run_again rfl (p := .ofText "e/../f/c.fs".toList) (by decide +kernel) hsaved
    (by rw [hsources]; exact hapart _)
  obtain ⟨hagain, -, -⟩ := run_again rfl (p := .ofText "e/../f/c.fs".toList) (by decide +kernel) hforced
    (by rw [hsources']; exact hapart _)
  obtain ⟨hfails, hone⟩ := htaken (by decide +kernel)
  refine ⟨⟨hsaved, ?_, hone desk 3, hall 2⟩, hforced, hagain (by decide +kernel)⟩
  rw [hfails]

end MarkupCode
