import MarkupCode.Command.Run
import MarkupCode.Outcome

/-!
# Options of a command

The flags of a command line are laid over the options of its configuration, and the outcome is checked
again. What the first check has let through the second one takes as it is, so only a width given by a flag
can still be refused; and what the first check refuses no flag makes good.
-/

namespace MarkupCode

namespace Options

theorem eq_of_fields {o o' : Options} (hindent : o.indentSize = o'.indentSize)
    (hbody : o.bodyOnly = o'.bodyOnly) : o = o' := by
  cases o
  cases o'
  cases hindent
  cases hbody
  rfl

/-- The second check has nothing to find fault with but the width. -/
theorem resolve_eq (o : Options) (indent : Option Int) (bodyOnly : Bool) :
    o.resolve indent bodyOnly =
      match size (.int (indent.getD o.indentSize)) with
      | .ok n => .ok ⟨n.1, bodyOnly || o.bodyOnly, n.2⟩
      | .error fault => .error [⟨indentKey, fault⟩] := by
  have hindent : field size (overlaid o indent bodyOnly) indentKey ⟨4, usual_pos⟩ =
      (size (.int (indent.getD o.indentSize))).mapError (⟨indentKey, ·⟩) := rfl
  have hbody : field switch (overlaid o indent bodyOnly) bodyKey false =
      .ok (bodyOnly || o.bodyOnly) := rfl
  have hothers : unknownKeys (overlaid o indent bodyOnly) = [] := rfl
  unfold resolve validate
  simp only [hbody, hothers, hindent]
  cases size (.int (indent.getD o.indentSize)) <;> rfl

theorem resolve_of_le {o : Options} {indent : Option Int} (h : 1 ≤ indent.getD o.indentSize)
    (bodyOnly : Bool) :
    ∃ o', o.resolve indent bodyOnly = .ok o' ∧ (o'.indentSize : Int) = indent.getD o.indentSize ∧
      o'.bodyOnly = (o.bodyOnly || bodyOnly) := by
  have hpos : 0 < (indent.getD o.indentSize).toNat := by omega
  have hsize : size (.int (indent.getD o.indentSize)) = .ok ⟨_, hpos⟩ := dif_pos hpos
  rw [resolve_eq, hsize]
  exact ⟨_, rfl, Int.toNat_of_nonneg (by omega), Bool.or_comm ..⟩

theorem resolve_of_lt {o : Options} {indent : Option Int} (h : indent.getD o.indentSize < 1)
    (bodyOnly : Bool) : o.resolve indent bodyOnly = .error [⟨indentKey, .belowOne⟩] := by
  have hnot : ¬0 < (indent.getD o.indentSize).toNat := by omega
  have hsize : size (.int (indent.getD o.indentSize)) = .error .belowOne := dif_neg hnot
  rw [resolve_eq, hsize]

/-- Options that were checked once are taken as they are. -/
theorem resolve_none_false (o : Options) : o.resolve none false = .ok o := by
  have hpos := o.indentSize_pos
  have hle : 1 ≤ (none : Option Int).getD o.indentSize := by
    rw [Option.getD_none]
    omega
  obtain ⟨o', ho', hindent, hbody⟩ := resolve_of_le hle false
  rw [ho', eq_of_fields (Int.ofNat.inj hindent) (hbody.trans (Bool.or_false _))]

end Options

namespace Settings

/-- The configuration that settings name: no file, or a file that holds a mapping of options or a value that
counts as none. -/
inductive HasConfiguration (t : FileTree) (s : Settings) : Option (Path × Options.Data) → Prop
  | absent (h : Given.text? s.config = none) : HasConfiguration t s none
  | file {f text : Text} {content : Text.Bytes} {value : Yaml.Value} {data : Options.Data}
    (h : Given.text? s.config = some f) (hfile : t.find (.ofText f) = .ok (.file content))
    (htext : Text.decode content = .ok text) (hvalue : Yaml.read (Text.unifyNewlines text) = .ok value)
    (hdata : Options.dataOfValue? value = some data) : HasConfiguration t s (some (.ofText f, data))

def configured : Option (Path × Options.Data) → Except Failure Options
  | none => .ok default
  | some (p, data) => (Options.validate data).mapError fun details => .options p (.invalid details)

variable {t : FileTree} {s : Settings} {c : Option (Path × Options.Data)} {indent : Option Int}

theorem options_eq_bind (h : s.HasConfiguration t c) (hindent : s.indent = indent.map .value) :
    s.options t = configured c >>= fun o => (o.resolve indent s.bodyOnly).mapError .settings := by
  unfold options
  cases h with
  | absent h =>
    simp only [h, configured, Outcome.ok_bind, pure_bind, hindent]
    cases indent <;> rfl
  | @file f text content value data h hfile htext hvalue hdata =>
    have hcontains : t.contains (.ofText f) = .ok true := by rw [FileTree.contains, hfile]
    have hread : t.read (.ofText f) = .ok content := by rw [FileTree.read, hfile]
    have hload : Options.load content = (Options.validate data).mapError .invalid := by
      simp only [Options.load, htext, Outcome.mapError_ok, Outcome.ok_bind, hvalue, hdata]
    simp only [h, hcontains, hread, Outcome.mapError_ok, Outcome.ok_bind, if_true, hload, configured]
    cases Options.validate data with
    | error details => rfl
    | ok o =>
      simp only [hindent]
      cases indent <;> rfl

/-- Data that the options do not accept fail with the name of their file, whatever the flags are. Other
configurations fail only for a flag that asks for a width below one, and for that alone; otherwise the
width is that of the flag, or of the configuration where there is no flag, and a switch is on that either of
them sets. -/
theorem options_of_hasConfiguration (h : s.HasConfiguration t c)
    (hindent : s.indent = indent.map .value) :
    (∀ p data details, c = some (p, data) → Options.validate data = .error details →
      s.options t = .error (.options p (.invalid details)) ∧
        (Failure.options p (.invalid details)).message =
          "Invalid options in " ++ String.ofList p.text ++ ": ") ∧
    ∀ o, configured c = .ok o →
      ((∃ o', s.options t = .ok o') ↔ ∀ n, indent = some n → 1 ≤ n) ∧
      (∀ o', s.options t = .ok o' →
        (o'.indentSize : Int) = indent.getD o.indentSize ∧ o'.bodyOnly = (o.bodyOnly || s.bodyOnly) ∧
          1 ≤ o'.indentSize) ∧
      (∀ e, s.options t = .error e →
        e.message = "Invalid options: " ∧ ∃ details, e = .settings details ∧
          details.map (fun d => (d.key, d.fault.code)) =
            [(.name "indent_size".toList, "greater_than_equal")]) ∧
      o.resolve none false = .ok o := by
  rw [options_eq_bind h hindent]
  refine ⟨?_, fun o ho => ?_⟩
  · rintro p data details rfl hinvalid
    rw [configured, hinvalid]
    exact ⟨rfl, rfl⟩
  rw [ho, Outcome.ok_bind]
  have hflag : 1 ≤ indent.getD o.indentSize ↔ ∀ n, indent = some n → 1 ≤ n := by
    have hpos := o.indentSize_pos
    cases indent with
    | none =>
      refine ⟨fun _ n hn => (nomatch hn), fun _ => ?_⟩
      rw [Option.getD_none]
      omega
    | some n => simp
  rw [← hflag]
  by_cases hle : 1 ≤ indent.getD o.indentSize
  · obtain ⟨o', ho', hsize, hbody⟩ := Options.resolve_of_le hle s.bodyOnly
    rw [ho', Outcome.mapError_ok]
    refine ⟨⟨fun _ => hle, fun _ => ⟨o', rfl⟩⟩, ?_, ?_, o.resolve_none_false⟩
    · rintro o'' ho''
      cases ho''
      exact ⟨hsize, hbody, o'.indentSize_pos⟩
    · rintro e he
      cases he
  · rw [Options.resolve_of_lt (Int.not_le.1 hle)]
    refine ⟨⟨?_, fun hle' => absurd hle' hle⟩, ?_, ?_, o.resolve_none_false⟩
    · rintro ⟨o', ho'⟩
      cases ho'
    · rintro o' ho'
      cases ho'
    · rintro e he
      cases he
      exact ⟨rfl, _, rfl, rfl⟩

def tuned (content : String) : FileTree :=
  (FileTree.bare []).place ⟨["o.yaml".toList], rfl⟩ (.file (Text.encode content.toList))
    fun h => absurd h (by decide)

def tunedPath : Path := .ofText "o.yaml".toList

def tunedSettings (width : Int) : Settings :=
  { config := some (.value "o.yaml".toList), indent := some (.value width) }

theorem hasConfiguration_tuned {content : String} {data : Options.Data} (width : Int)
    (h : (Text.decode (Text.encode content.toList)).toOption.bind (fun text =>
      (Yaml.read (Text.unifyNewlines text)).toOption.bind Options.dataOfValue?) = some data) :
    (tunedSettings width).HasConfiguration (tuned content) (some (tunedPath, data)) := by
  cases htext : Text.decode (Text.encode content.toList) with
  | error e => rw [htext] at h; cases h
  | ok text =>
    rw [htext] at h
    cases hvalue : Yaml.read (Text.unifyNewlines text) with
    | error e => simp only [Except.toOption, Option.bind_some, hvalue, Option.bind_none] at h; cases h
    | ok value =>
      simp only [Except.toOption, Option.bind_some, hvalue] at h
      exact .file rfl rfl htext hvalue h

def quotedWidth : String := "indent_size: '08'\nbody_only: 1\n"

def quotedData : Options.Data := [(Options.indentKey, .text "08".toList), (Options.bodyKey, .int 1)]

def noWidth : String := "indent_size: 0\n"

/-- A width in quotes counts, and a flag takes its place or is refused; a width of zero in the file is not
made good by a flag. -/
theorem options_of_hasConfiguration_tuned :
    (∀ width, (tunedSettings width).HasConfiguration (tuned quotedWidth) (some (tunedPath, quotedData))) ∧
    (∃ o, (tunedSettings 2).options (tuned quotedWidth) = .ok o ∧ (o.indentSize : Int) = 2 ∧
      o.bodyOnly = true) ∧
    (¬∃ o, (tunedSettings 0).options (tuned quotedWidth) = .ok o) ∧
    (tunedSettings 2).HasConfiguration (tuned noWidth)
      (some (tunedPath, [(Options.indentKey, .int 0)])) ∧
    (tunedSettings 2).options (tuned noWidth) =
      .error (.options tunedPath (.invalid [⟨Options.indentKey, .belowOne⟩])) := by
  have hquoted : ∀ width, (tunedSettings width).HasConfiguration (tuned quotedWidth)
      (some (tunedPath, quotedData)) := fun width => hasConfiguration_tuned width (by decide +kernel)
  have hnone : (tunedSettings 2).HasConfiguration (tuned noWidth)
      (some (tunedPath, [(Options.indentKey, .int 0)])) := hasConfiguration_tuned 2 (by decide +kernel)
  have hgiven : ∀ width, (tunedSettings width).indent = (some width).map .value := fun _ => rfl
  have hyields : configured (some (tunedPath, quotedData)) = .ok ⟨8, true, by decide⟩ := rfl
  obtain ⟨hsucceeds, hvalues, -⟩ := (options_of_hasConfiguration (hquoted 2) (hgiven 2)).2 _ hyields
  obtain ⟨hfails, -⟩ := (options_of_hasConfiguration (hquoted 0) (hgiven 0)).2 _ hyields
  obtain ⟨o, ho⟩ := hsucceeds.2 (by simp)
  obtain ⟨hindent, hbody, -⟩ := hvalues o ho
  refine ⟨hquoted, ⟨o, ho, hindent, hbody⟩, fun h => ?_, hnone, ?_⟩
  · exact absurd (hfails.1 h 0 rfl) (by decide)
  · exact ((options_of_hasConfiguration hnone (hgiven 2)).1 _ _ _ rfl rfl).1

end Settings
end MarkupCode
