import MarkupCode.Proofs.Command.Saving
import MarkupCode.Proofs.Preview.Panes

/-!
# Where code comes out

Code can be had of a file or of standard input, on standard output, in a file and in a preview page. With
the same content and settings all of these fail alike or show the same code, where standard output has
nothing for empty code and a file has an empty line.
-/

namespace MarkupCode

namespace FileTree

theorem find_ofText_nil (t : FileTree) : t.find (.ofText []) = .ok .folder := by
  have hleads : t.LeadsTo (.ofText []) t.home := by
    refine leadsTo_iff.2 ⟨?_, rfl⟩
    unfold Path.IsRegular
    decide
  exact hleads.find t.home_folder

theorem ne_nil_of_find {t : FileTree} {s : Text} (h : t.find (.ofText s) ≠ .ok .folder) : s ≠ [] := by
  rintro rfl
  exact h t.find_ofText_nil

end FileTree

theorem Given.text?_value {s : Text} (h : s ≠ []) : Given.text? (some (.value s)) = some s := by
  cases s with
  | nil => exact absurd rfl h
  | cons c s => rfl

namespace Command

variable {t : FileTree} {content : Text.Bytes} {p : Path}

def sourceAndCode (t : FileTree) (content : Text.Bytes) (s : Settings) : Except Failure (Text × Text) := do
  let o ← s.options t
  let source ← decodeText content
  let code ← (MarkupCode.convert o source).mapError .conversion
  return (source, code)

theorem decode_of_sourceAndCode {s : Settings} {source code : Text}
    (h : sourceAndCode t content s = .ok (source, code)) :
    (Text.decode content).map Text.unifyNewlines = .ok source := by
  obtain ⟨_, _, h⟩ := Outcome.exists_of_bind_ok h
  obtain ⟨_, hdecode, h⟩ := Outcome.exists_of_bind_ok h
  obtain ⟨_, _, h⟩ := Outcome.exists_of_bind_ok h
  cases h
  unfold decodeText at hdecode
  cases hcontent : Text.decode content with
  | error e => rw [hcontent] at hdecode; cases hdecode
  | ok text => rw [hcontent] at hdecode; cases hdecode; rfl

theorem readSource_file (h : t.find p = .ok (.file content)) (hname : p.text ≠ ['-'])
    (input : Text.Bytes) : readSource t input (some p) = decodeText content := by
  have hcontains : t.contains p = .ok true := by rw [FileTree.contains, h]
  have hread : t.read p = .ok content := by rw [FileTree.read, h]
  have hnot : readsStandardInput (some p) = false := decide_eq_false hname
  unfold readSource
  simp only [hnot, hcontains, hread]
  rfl

theorem codeOf_eq_map {input : Text.Bytes} {s : Settings}
    (h : readSource t input ((Given.text? s.input).map .ofText) = decodeText content) :
    codeOf t input s = (sourceAndCode t content s).map Prod.snd := by
  unfold codeOf sourceAndCode
  rw [h]
  cases s.options t with
  | error e => rfl
  | ok o =>
    cases decodeText content with
    | error e => rfl
    | ok source =>
      change (MarkupCode.convert o source).mapError _ =
        (((MarkupCode.convert o source).mapError _).bind _).map _
      cases MarkupCode.convert o source <;> rfl

theorem previewOf_eq_map {input : Text.Bytes} {s : Settings} {f out : Text}
    (hinput : s.input = some (.value f)) (hout : s.out = some (.value out))
    (h : readSource t input (some (.ofText f)) = decodeText content) :
    previewOf t input s = (sourceAndCode t content s).map fun made =>
      (.ofText out, Preview.page ((Given.text? s.title).getD (Path.ofText f).name) made.1 made.2) := by
  unfold previewOf sourceAndCode
  cases s.options t with
  | error e => rfl
  | ok o =>
    rw [hinput, hout]
    change (readSource t input (some (.ofText f))).bind _ = _
    rw [h]
    cases decodeText content with
    | error e => rfl
    | ok source =>
      change ((MarkupCode.convert o source).mapError _).bind _ =
        (((MarkupCode.convert o source).mapError _).bind _).map _
      cases MarkupCode.convert o source <;> rfl

/-- Where nothing is in a folder that is there, a text is saved. -/
theorem save_of_missing (h : t.find p = .error .missing) (hparent : t.find p.parent = .ok .folder)
    (text : Text) (force : Bool) : ∃ t', save t p text force = (t', .ok ()) ∧
      ∃ l, t'.LeadsTo p l ∧ t'.file? l = some (Text.encode text) := by
  have hcontains : t.contains p = .ok false := by rw [FileTree.contains, h]
  obtain ⟨l, hl, hnone⟩ := FileTree.exists_leadsTo_of_missing h hparent
  obtain ⟨t', hwrite⟩ := FileTree.writeFile_of_leadsTo hl (by simp [hnone]) (Text.encode text)
  refine ⟨t', ?_, (FileTree.changedAt_of_writeFile (.refl t p.parent) hwrite).2⟩
  unfold save
  rw [hcontains, FileTree.makeFolders_of_folder hparent]
  simp only [Bool.false_and, Bool.false_eq_true, if_false, hwrite]

def warningsFor (s : Settings) (code : Text) : Text := if code = [] then emptyWarning s else []

def shown (code : Text) : Text := if code = [] then [] else code ++ ['\n']

theorem shown_eq_nil_iff (code : Text) : shown code = [] ↔ code = [] := by
  unfold shown
  split
  · next h => exact ⟨fun _ => h, fun _ => rfl⟩
  · next h => exact ⟨fun h' => absurd h' (by simp), fun h' => absurd h' h⟩

theorem append_eq_of_shown (code : Text) :
    code ++ ['\n'] = if shown code = [] then ['\n'] else shown code := by
  rw [shown]
  split
  · next h => rw [h]; rfl
  · rw [if_neg (by simp)]

/-- A report with these warnings has one exactly where the code shows nothing. -/
theorem warnings_ne_nil_iff {r : Report} {s : Settings} {code : Text}
    (h : r.warnings = warningsFor s code) : r.warnings ≠ [] ↔ shown code = [] := by
  have hwarning : emptyWarning s ≠ [] := List.append_ne_nil_of_right_ne_nil _ (by decide)
  rw [h, shown_eq_nil_iff, warningsFor]
  split
  · next h => exact ⟨fun _ => h, fun _ => hwarning⟩
  · next h => exact ⟨fun hne => absurd rfl hne, fun h' => absurd h' h⟩

theorem runConvert_of_error {input : Text.Bytes} {s : Settings} {e : Failure}
    (h : codeOf t input s = .error e) : (runConvert t input s).ending = .failure e := by
  unfold runConvert
  rw [h]

theorem runConvert_to_output {input : Text.Bytes} {s : Settings} {code : Text}
    (h : codeOf t input s = .ok code) (hout : s.out = none) :
    runConvert t input s = { tree := t, output := shown code, warnings := warningsFor s code } := by
  unfold runConvert
  rw [h, hout]
  rfl

theorem runConvert_to_file {input : Text.Bytes} {s : Settings} {code out : Text}
    (h : codeOf t input s = .ok code) (hout : s.out = some (.value out))
    (hmissing : t.find (.ofText out) = .error .missing)
    (hparent : t.find (Path.ofText out).parent = .ok .folder) :
    (runConvert t input s).ending = .success ∧ (runConvert t input s).warnings = warningsFor s code ∧
      ∃ l, (runConvert t input s).tree.LeadsTo (.ofText out) l ∧
        (runConvert t input s).tree.file? l = some (Text.encode (code ++ ['\n'])) := by
  have hne : out ≠ [] := FileTree.ne_nil_of_find (t := t) (by simp [hmissing])
  obtain ⟨t', hsave, hfile⟩ := save_of_missing hmissing hparent (code ++ ['\n']) s.force
  unfold runConvert
  rw [h, hout]
  simp only [Given.text?_value hne, saveReport, hsave]
  exact ⟨trivial, rfl, hfile⟩

theorem runPreview_of_error {input : Text.Bytes} {s : Settings} {e : Failure}
    (h : previewOf t input s = .error e) : (runPreview t input s).ending = .failure e := by
  unfold runPreview
  rw [h]

theorem runPreview_of_ok {input : Text.Bytes} {s : Settings} {page : Text}
    (h : previewOf t input s = .ok (p, page)) (hmissing : t.find p = .error .missing)
    (hparent : t.find p.parent = .ok .folder) :
    (runPreview t input s).ending = .success ∧
      ∃ l, (runPreview t input s).tree.LeadsTo p l ∧
        (runPreview t input s).tree.file? l = some (Text.encode page) := by
  obtain ⟨t', hsave, hfile⟩ := save_of_missing hmissing hparent page s.force
  unfold runPreview
  rw [h]
  simp only [saveReport, hsave]
  exact ⟨trivial, hfile⟩

end Command

open CommandLine

theorem CommandLine.run_of_request {arguments : List Text} {r : Request} (h : request? arguments = some r)
    (t : FileTree) (input : Text.Bytes) : run t input arguments = r.perform t input := by
  unfold request? at h
  unfold run
  cases hrequest : Request.ofArguments arguments with
  | error e => rw [hrequest] at h; cases h
  | ok r' => rw [hrequest] at h; cases h; rfl

/-- Four calls with the same settings, on a file, on standard input with the file's content, from the file
to a new file and from the file to a new preview, end in the same failure, or all succeed and show the same
code, with a warning exactly where there is none. -/
theorem outputs_agree {t : FileTree} {content : Text.Bytes} {s : Settings} {f g p : Text}
    {ofFile ofInput toFile toPreview : List Text}
    (hfile : t.find (.ofText f) = .ok (.file content)) (hname : (Path.ofText f).text ≠ ['-'])
    (hg : t.find (.ofText g) = .error .missing) (hgParent : t.find (Path.ofText g).parent = .ok .folder)
    (hp : t.find (.ofText p) = .error .missing) (hpParent : t.find (Path.ofText p).parent = .ok .folder)
    (h₁ : request? ofFile = some (.run .convert { s with input := some (.value f), out := none }))
    (h₂ : request? ofInput = some (.run .convert { s with input := none, out := none }))
    (h₃ : request? toFile =
      some (.run .convert { s with input := some (.value f), out := some (.value g) }))
    (h₄ : request? toPreview =
      some (.run .preview { s with input := some (.value f), out := some (.value p) }))
    (i₁ i₃ i₄ : Text.Bytes) :
    (∃ e, (run t i₁ ofFile).ending = .failure e ∧ (run t content ofInput).ending = .failure e ∧
      (run t i₃ toFile).ending = .failure e ∧ (run t i₄ toPreview).ending = .failure e) ∨
    ∃ output,
      ((run t i₁ ofFile).ending = .success ∧ (run t content ofInput).ending = .success ∧
        (run t i₃ toFile).ending = .success ∧ (run t i₄ toPreview).ending = .success) ∧
      (run t i₁ ofFile).output = output ∧ (run t content ofInput).output = output ∧
      (∃ l, (run t i₃ toFile).tree.LeadsTo (.ofText g) l ∧
        (run t i₃ toFile).tree.file? l =
          some (Text.encode (if output = [] then ['\n'] else output))) ∧
      (∃ l page source code, (run t i₄ toPreview).tree.LeadsTo (.ofText p) l ∧
        (run t i₄ toPreview).tree.file? l = some (Text.encode page) ∧
        Preview.pane? page 0 = some source ∧ Preview.pane? page 1 = some code ∧
        (Text.decode content).map Text.unifyNewlines = .ok (Preview.unescape source) ∧
        output = if Preview.unescape code = [] then [] else Preview.unescape code ++ ['\n']) ∧
      ((run t i₁ ofFile).warnings ≠ [] ↔ output = []) ∧
      ((run t content ofInput).warnings ≠ [] ↔ output = []) ∧
      ((run t i₃ toFile).warnings ≠ [] ↔ output = []) := by
  have hne : f ≠ [] := FileTree.ne_nil_of_find (t := t) (by simp [hfile])
  have hread := Command.readSource_file hfile hname
  have hgiven : (Given.text? (some (.value f))).map Path.ofText = some (.ofText f) := by
    rw [Given.text?_value hne]
    rfl
  have hof (i out) : Command.codeOf t i { s with input := some (.value f), out } =
      (Command.sourceAndCode t content s).map Prod.snd :=
    Command.codeOf_eq_map (hgiven ▸ hread i)
  have hinput : Command.codeOf t content { s with input := none, out := none } =
      (Command.sourceAndCode t content s).map Prod.snd :=
    Command.codeOf_eq_map rfl
  have hpreview : Command.previewOf t i₄ { s with input := some (.value f), out := some (.value p) } =
      (Command.sourceAndCode t content s).map _ :=
    Command.previewOf_eq_map rfl rfl (hread i₄)
  rw [run_of_request h₁, run_of_request h₂, run_of_request h₃, run_of_request h₄]
  change (∃ e, (Command.runConvert t _ _).ending = _ ∧ (Command.runConvert t _ _).ending = _ ∧
    (Command.runConvert t _ _).ending = _ ∧ (Command.runPreview t _ _).ending = _) ∨ _
  cases hmade : Command.sourceAndCode t content s with
  | error e =>
    rw [hmade] at hof hinput hpreview
    exact .inl ⟨e, Command.runConvert_of_error (hof i₁ none), Command.runConvert_of_error hinput,
      Command.runConvert_of_error (hof i₃ _), Command.runPreview_of_error hpreview⟩
  | ok made =>
    obtain ⟨source, code⟩ := made
    rw [hmade] at hof hinput hpreview
    have hshown := Command.runConvert_to_output (hof i₁ none) rfl
    have hshown' := Command.runConvert_to_output hinput rfl
    obtain ⟨hend₃, hwarn₃, hsaved⟩ := Command.runConvert_to_file (hof i₃ _) rfl hg hgParent
    obtain ⟨hend₄, l, hleads, hpage⟩ := Command.runPreview_of_ok hpreview hp hpParent
    obtain ⟨hsource, hcode⟩ := Preview.pane?_page _ source code
    rw [Command.append_eq_of_shown] at hsaved
    refine .inr ⟨Command.shown code, ⟨?_, ?_, hend₃, hend₄⟩, ?_, ?_, hsaved,
      ⟨l, _, _, _, hleads, hpage, hsource, hcode, ?_, ?_⟩, ?_, ?_, ?_⟩
    · exact congrArg Report.ending hshown
    · exact congrArg Report.ending hshown'
    · exact congrArg Report.output hshown
    · exact congrArg Report.output hshown'
    · rw [Preview.unescape_escape]
      exact Command.decode_of_sourceAndCode hmade
    · rw [Preview.unescape_escape]
      rfl
    · exact Command.warnings_ne_nil_iff (congrArg Report.warnings hshown)
    · exact Command.warnings_ne_nil_iff (congrArg Report.warnings hshown')
    · exact Command.warnings_ne_nil_iff hwarn₃

def pageContent : Text.Bytes := Text.encode "<body><p>a &amp; b</p>\r\n&lt;/pre&gt;\n</body>".toList

def desk : FileTree := (FileTree.bare []).place ⟨["a.html".toList], rfl⟩ (.file pageContent) (by decide)

def deskFlags : List Text := ["--indent".toList, "2".toList, "--body-only".toList]

def deskConversion : List Text := ["convert".toList, "--input".toList, "a.html".toList] ++ deskFlags

def deskPreview : List Text :=
  ["preview".toList, "--input".toList, "a.html".toList, "--out".toList, "b.html".toList] ++ deskFlags

theorem outputs_agree_desk :
    (desk.find (.ofText "a.html".toList) = .ok (.file pageContent) ∧
      desk.find (.ofText "./b.fs".toList) = .error .missing ∧
      desk.find (.ofText "b.html".toList) = .error .missing) ∧
    (run desk [] deskConversion).ending = .success ∧
    (run desk pageContent ("convert".toList :: deskFlags)).output = (run desk [] deskConversion).output ∧
    (∃ l, (run desk [] (deskConversion ++ ["--out=./b.fs".toList])).tree.file? l =
      some (Text.encode (if (run desk [] deskConversion).output = [] then ['\n']
        else (run desk [] deskConversion).output))) ∧
    ∃ l page source code, (run desk [] deskPreview).tree.file? l = some (Text.encode page) ∧
      Preview.pane? page 0 = some source ∧ Preview.pane? page 1 = some code ∧
      (Text.decode pageContent).map Text.unifyNewlines = .ok (Preview.unescape source) ∧
      (run desk [] deskConversion).output =
        if Preview.unescape code = [] then [] else Preview.unescape code ++ ['\n'] := by
  have hfile : desk.find (.ofText "a.html".toList) = .ok (.file pageContent) := rfl
  have hg : desk.find (.ofText "./b.fs".toList) = .error .missing := rfl
  have hp : desk.find (.ofText "b.html".toList) = .error .missing := rfl
  have hsuccess : (run desk [] deskConversion).ending = .success := by decide +kernel
  have hagree := outputs_agree (t := desk) (s := { indent := some (.value 2), bodyOnly := true })
    (g := "./b.fs".toList) (p := "b.html".toList) hfile (by decide) hg rfl hp rfl
    (show request? deskConversion = _ by decide +kernel)
    (show request? ("convert".toList :: deskFlags) = _ by decide +kernel)
    (show request? (deskConversion ++ ["--out=./b.fs".toList]) = _ by decide +kernel)
    (show request? deskPreview = _ by decide +kernel) [] [] []
  rcases hagree with ⟨e, hfails, -⟩ | ⟨output, -, rfl, hsame, ⟨l, -, hsaved⟩, hpage, -⟩
  · rw [hsuccess] at hfails
    cases hfails
  · obtain ⟨m, page, source, code, -, hpage, hsource, hcode, hdecode, hshown⟩ := hpage
    exact ⟨⟨hfile, hg, hp⟩, hsuccess, hsame, ⟨l, hsaved⟩, m, page, source, code, hpage, hsource, hcode,
      hdecode, hshown⟩

end MarkupCode
