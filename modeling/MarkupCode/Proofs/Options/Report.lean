import Mathlib.Control.Monad.Basic
import MarkupCode.Options.Report
import MarkupCode.Proofs.Yaml.Value

/-!
# Reports on options files

Loading gives options exactly when the value of the file counts as nothing or is a mapping that sets them
(`load_eq_ok_iff`). A fault is reported exactly when its wording names the file (`isReport_iff_names`);
those that are not reported come from bytes that are no text or from a document that cannot be read.
-/

namespace MarkupCode

open Outcome

/-! ## Reports -/

theorem LoadError.names_of_isReport {e : LoadError} (h : e.isReport) (path : Text) :
    path <:+: (e.message path).toList := by
  have hbetween : ∀ before behind : String,
      path <:+: (before ++ String.ofList path ++ behind).toList := fun before behind =>
    ⟨before.toList, behind.toList, by simp⟩
  cases e with
  | encoding _ => cases h
  | document fault =>
    obtain rfl : fault = .malformed := by simpa [isReport] using h
    exact hbetween _ _
  | notMapping => exact hbetween "" _
  | invalid _ => exact hbetween _ _

/-- The wording of a fault that is not reported is the same for every file. -/
theorem LoadError.message_eq_of_not_isReport {e : LoadError} (h : ¬e.isReport) (path path' : Text) :
    e.message path = e.message path' := by
  cases e with
  | encoding _ => rfl
  | document fault => cases fault <;> first | rfl | exact absurd rfl h
  | notMapping => exact absurd rfl h
  | invalid _ => exact absurd rfl h

theorem LoadError.isReport_iff_names (e : LoadError) :
    e.isReport ↔ ∀ path : Text, path <:+: (e.message path).toList := by
  refine ⟨names_of_isReport, fun hnames => Decidable.byContradiction fun h => ?_⟩
  -- A fixed wording is shorter than some path.
  have hlength := (hnames ('p' :: (e.message []).toList)).length_le
  rw [message_eq_of_not_isReport h ('p' :: (e.message []).toList) [], List.length_cons] at hlength
  omega

namespace Options

/-! ## Options of a mapping -/

variable {entries : List (Yaml.Scalar × Yaml.Item)} {t : Text}

theorem keyOfScalar_eq_name_iff {s : Yaml.Scalar} : keyOfScalar s = .name t ↔ s = .text t := by
  cases s with
  | text s => simp [keyOfScalar]
  | int n =>
    simp only [keyOfScalar]
    split <;> simp
  | null | bool | float | bytes | stamp => simp [keyOfScalar]

/-- What is set under a name: keys are not the same, so there is one entry at most. -/
theorem lookup_name_eq_some_iff (h : Entries.Distinct entries) {d : Datum} :
    (entries.map fun e => (keyOfScalar e.1, datumOfItem e.2)).lookup (.name t) = some d ↔
      ∃ e ∈ entries, e.1 = .text t ∧ datumOfItem e.2 = d := by
  induction entries with
  | nil => simp
  | cons e rest ih =>
    obtain ⟨he, hrest⟩ := List.pairwise_cons.1 h
    rw [List.map_cons, List.lookup_cons]
    by_cases hkey : e.1 = .text t
    · have hbeq : (OptionKey.name t == keyOfScalar e.1) = true :=
        beq_iff_eq.2 (keyOfScalar_eq_name_iff.2 hkey).symm
      rw [hbeq]
      refine ⟨fun hd => ⟨e, List.mem_cons_self, hkey, Option.some.inj hd⟩, ?_⟩
      rintro ⟨e', he', hkey', hd⟩
      rcases List.mem_cons.1 he' with rfl | he'
      · exact congrArg some hd
      · have hdiffer := he e' he'
        have hsame : (Yaml.Scalar.text t == Yaml.Scalar.text t) = true := decide_eq_true rfl
        rw [hkey, hkey', hsame] at hdiffer
        cases hdiffer
    · have hbeq : (OptionKey.name t == keyOfScalar e.1) = false :=
        beq_eq_false_iff_ne.2 fun heq => hkey (keyOfScalar_eq_name_iff.1 heq.symm)
      rw [hbeq]
      simp only [ih hrest, List.mem_cons, exists_eq_or_imp, hkey, false_and, false_or]

theorem lookup_name_eq_none_iff :
    (entries.map fun e => (keyOfScalar e.1, datumOfItem e.2)).lookup (.name t) = none ↔
      ∀ e ∈ entries, e.1 ≠ .text t := by
  rw [List.lookup_eq_none_iff, List.forall_mem_map]
  refine forall₂_congr fun e _ => ?_
  rw [bne_iff_ne, ne_eq, ne_eq, eq_comm, keyOfScalar_eq_name_iff]

theorem field_eq_ok_iff {α : Type} {check : Datum → Except OptionFault α} {data : Data} {key : OptionKey}
    {usual a : α} :
    field check data key usual = .ok a ↔
      (∀ d, data.lookup key = some d → check d = .ok a) ∧ (data.lookup key = none → a = usual) := by
  unfold field
  cases data.lookup key with
  | none => simp [eq_comm]
  | some d =>
    cases h : check d <;> simp [h, Except.mapError]

theorem unknownKeys_eq_nil_iff {data : Data} :
    unknownKeys data = [] ↔ ∀ e ∈ data, e.1 = indentKey ∨ e.1 = bodyKey := by
  unfold unknownKeys
  rw [List.filterMap_eq_nil_iff]
  refine forall₂_congr fun e _ => ?_
  obtain ⟨key, d⟩ := e
  dsimp only
  split
  · next h => exact iff_of_true rfl h
  · next h =>
    refine iff_of_false ?_ h
    cases key <;> simp

theorem validate_eq_ok_iff {data : Data} {o : Options} :
    validate data = .ok o ↔
      field size data indentKey ⟨4, usual_pos⟩ = .ok ⟨o.indentSize, o.indentSize_pos⟩ ∧
      field switch data bodyKey false = .ok o.bodyOnly ∧ unknownKeys data = [] := by
  unfold validate
  cases hindent : field size data indentKey ⟨4, usual_pos⟩ with
  | error d => simp
  | ok n =>
    cases hbody : field switch data bodyKey false with
    | error d => simp
    | ok b =>
      cases hothers : unknownKeys data with
      | nil =>
        refine ⟨fun h => ?_, ?_⟩
        · obtain rfl := Except.ok.inj h
          exact ⟨rfl, rfl, rfl⟩
        · rintro ⟨hn, hb, -⟩
          cases hn
          cases hb
          rfl
      | cons d ds => simp

theorem unknownKeys_entries_eq_nil_iff :
    unknownKeys (entries.map fun e => (keyOfScalar e.1, datumOfItem e.2)) = [] ↔
      ∀ e ∈ entries, e.1 = .text "indent_size".toList ∨ e.1 = .text "body_only".toList := by
  rw [unknownKeys_eq_nil_iff, List.forall_mem_map]
  exact forall₂_congr fun e _ => or_congr keyOfScalar_eq_name_iff keyOfScalar_eq_name_iff

theorem validate_entries_eq_ok_iff (h : Entries.Distinct entries) {o : Options} :
    validate (entries.map fun e => (keyOfScalar e.1, datumOfItem e.2)) = .ok o ↔ o.IsSetBy entries := by
  rw [validate_eq_ok_iff, field_eq_ok_iff, field_eq_ok_iff, unknownKeys_entries_eq_nil_iff, indentKey, bodyKey]
  simp only [lookup_name_eq_some_iff h, lookup_name_eq_none_iff]
  constructor
  · rintro ⟨⟨hindent, hnoIndent⟩, ⟨hbody, hnoBody⟩, hknown⟩
    refine ⟨fun e he => ?_, fun hno => ?_, hnoBody⟩
    · refine (hknown e he).imp (fun hkey => ⟨hkey, ?_⟩) fun hkey => ⟨hkey, ?_⟩
      · exact hindent _ ⟨e, he, hkey, rfl⟩
      · exact hbody _ ⟨e, he, hkey, rfl⟩
    · exact congrArg Subtype.val (hnoIndent hno)
  · rintro ⟨hentry, hnoIndent, hnoBody⟩
    have hdiffer : Yaml.Scalar.text "indent_size".toList ≠ .text "body_only".toList := by decide
    refine ⟨⟨?_, fun hno => Subtype.ext (hnoIndent hno)⟩, ⟨?_, fun hno => hnoBody hno⟩, ?_⟩
    · rintro d ⟨e, he, hkey, rfl⟩
      rcases hentry e he with ⟨-, hsize⟩ | ⟨hkey', -⟩
      · exact hsize
      · exact absurd (hkey.symm.trans hkey') hdiffer
    · rintro d ⟨e, he, hkey, rfl⟩
      rcases hentry e he with ⟨hkey', -⟩ | ⟨-, hswitch⟩
      · exact absurd (hkey'.symm.trans hkey) hdiffer
      · exact hswitch
    · exact fun e he => (hentry e he).imp And.left And.left

/-! ## Loading -/

theorem ofValue_of_isNothing {v : Yaml.Value} (h : v.isNothing) : ofValue v = .ok default := by
  rw [ofValue, dataOfValue?_of_isNothing h]
  rfl

theorem ofValue_eq_ok_iff {v : Yaml.Value} (h : Yaml.Value.HasDistinctKeys v) {o : Options} :
    ofValue v = .ok o ↔
      v.isNothing ∧ o = default ∨ ∃ entries, v = .mapping entries ∧ o.IsSetBy entries := by
  by_cases hnothing : v.isNothing
  · have hno : ¬∃ entries, v = .mapping entries ∧ o.IsSetBy entries := by
      rintro ⟨entries, rfl, -⟩
      cases hnothing
    rw [ofValue_of_isNothing hnothing, or_iff_left hno, and_iff_right hnothing, Except.ok.injEq, eq_comm]
  · rw [or_iff_right fun h => hnothing h.1]
    constructor
    · intro ho
      by_cases hmapping : ∃ entries, v = .mapping entries
      · obtain ⟨entries, rfl⟩ := hmapping
        exact ⟨entries, rfl, (validate_entries_eq_ok_iff (h entries rfl)).1 (of_mapError_ok ho)⟩
      · rw [ofValue, dataOfValue?_eq_none hnothing (not_exists.1 hmapping)] at ho
        cases ho
    · rintro ⟨entries, rfl, hset⟩
      have hvalidate := (validate_entries_eq_ok_iff (h entries rfl)).2 hset
      exact congrArg (Except.mapError LoadError.invalid) hvalidate

theorem isReport_of_ofValue {v : Yaml.Value} {e : LoadError} (h : ofValue v = .error e) : e.isReport := by
  unfold ofValue at h
  split at h
  · cases h
    rfl
  · next data _ =>
    cases hvalidate : validate data with
    | ok o =>
      rw [hvalidate] at h
      cases h
    | error details =>
      rw [hvalidate] at h
      cases h
      rfl

/-- The value of a file cannot be found when its document is malformed or for a cause that is not reported. -/
theorem documentValue_ends (content : Text.Bytes) :
    Ends (fun e => e = .document .malformed ∨ Unreported content e) Yaml.Value.HasDistinctKeys
      (documentValue content) := by
  cases htext : Text.decode content with
  | error fault =>
    rw [documentValue, htext]
    exact .inr (.encoding htext)
  | ok text =>
    have hread := Yaml.read_ends (Text.unifyNewlines text)
    rw [documentValue, htext, mapError_ok, ok_bind]
    cases hvalue : Yaml.read (Text.unifyNewlines text) with
    | ok value =>
      rw [hvalue] at hread
      exact hread
    | error fault =>
      rw [hvalue] at hread
      exact hread.imp (congrArg LoadError.document) (.document htext)

theorem load_eq_ok_iff {content : Text.Bytes} {o : Options} :
    load content = .ok o ↔ ∃ value, documentValue content = .ok value ∧
      (value.isNothing ∧ o = default ∨ ∃ entries, value = .mapping entries ∧ o.IsSetBy entries) := by
  have hdistinct := documentValue_ends content
  rw [load_eq_bind, bind_eq_ok_iff]
  refine exists_congr fun value => and_congr_right fun hvalue => ?_
  rw [hvalue] at hdistinct
  exact ofValue_eq_ok_iff hdistinct

theorem isReport_or_unreported {content : Text.Bytes} {e : LoadError} (h : load content = .error e) :
    e.isReport ∨ Unreported content e := by
  have hvalue := documentValue_ends content
  rw [load_eq_bind] at h
  cases hv : documentValue content with
  | error e' =>
    rw [hv] at h hvalue
    cases h
    exact hvalue.imp_left fun he => by rw [he]; rfl
  | ok v =>
    rw [hv, ok_bind] at h
    exact .inl (isReport_of_ofValue h)

theorem Unreported.not_isReport {content : Text.Bytes} {e : LoadError} (h : Unreported content e) :
    ¬e.isReport := by
  cases h with
  | encoding _ => exact Bool.false_ne_true
  | document _ hfault => exact fun hreport => hfault.ne_malformed (of_decide_eq_true hreport)

theorem isReport_iff {content : Text.Bytes} {e : LoadError} (h : load content = .error e) :
    e.isReport ↔ ¬Unreported content e :=
  ⟨fun hreport hunreported => hunreported.not_isReport hreport, (isReport_or_unreported h).resolve_right⟩

theorem LoadsAsPromised.of_documentValue {content : Text.Bytes}
    (hfault : ∀ e, documentValue content = .error e → e = .document .malformed)
    (hnull : ∀ value, documentValue content = .ok value → value.isNothing → value = .scalar .null) :
    LoadsAsPromised content where
  reported e he := by
    have hreport : e.isReport := by
      rw [load_eq_bind] at he
      cases hvalue : documentValue content with
      | error e' =>
        rw [hvalue] at he
        cases he
        rw [hfault e hvalue]
        rfl
      | ok value =>
        rw [hvalue, ok_bind] at he
        exact isReport_of_ofValue he
    exact ⟨hreport, LoadError.names_of_isReport hreport⟩
  given o ho := by
    obtain ⟨value, hvalue, ⟨hnothing, -⟩ | ⟨entries, rfl, hset⟩⟩ := load_eq_ok_iff.1 ho
    · exact .inl (hnull value hvalue hnothing ▸ hvalue)
    · exact .inr ⟨entries, hvalue, hset⟩

theorem LoadsAsPromised.documentValue_eq {content : Text.Bytes} (h : LoadsAsPromised content) :
    (∀ e, documentValue content = .error e → e = .document .malformed) ∧
      ∀ value, documentValue content = .ok value → value.isNothing → value = .scalar .null := by
  constructor
  · intro e he
    have hload : load content = .error e := by
      rw [load_eq_bind, he]
      rfl
    have hends := documentValue_ends content
    rw [he] at hends
    exact hends.resolve_right fun hunreported => hunreported.not_isReport (h.reported e hload).1
  · intro value hvalue hnothing
    have hload : load content = .ok default := by
      rw [load_eq_bind, hvalue]
      exact ofValue_of_isNothing hnothing
    rcases h.given _ hload with hnull | ⟨entries, hmapping, -⟩
    · exact Except.ok.inj (hvalue.symm.trans hnull)
    · rw [Except.ok.inj (hvalue.symm.trans hmapping)] at hnothing
      cases hnothing

/-- A file is answered as promised exactly when its document has a value or is malformed, and no value but
null counts as nothing. A fault names the file unless the file is no text or its document cannot be read; and
options come from a value that counts as nothing, or from a mapping that sets them. -/
theorem loadsAsPromised_iff_and_load_iff (content : Text.Bytes) :
    (LoadsAsPromised content ↔
      (∀ e, documentValue content = .error e → e = .document .malformed) ∧
      ∀ value, documentValue content = .ok value → value.isNothing → value = .scalar .null) ∧
    (∀ e, load content = .error e →
      ((∀ path, path <:+: (e.message path).toList) ↔ ¬Unreported content e)) ∧
    ∀ o, load content = .ok o ↔ ∃ value, documentValue content = .ok value ∧
      (value.isNothing ∧ o = default ∨ ∃ entries, value = .mapping entries ∧ o.IsSetBy entries) := by
  refine ⟨⟨LoadsAsPromised.documentValue_eq, fun h => .of_documentValue h.1 h.2⟩, fun e he => ?_, fun o => ?_⟩
  · rw [← e.isReport_iff_names]
    exact isReport_iff he
  · exact load_eq_ok_iff

def badMonth : Text.Bytes := Text.encode "indent_size: 2024-13-45".toList

def brokenByte : Text.Bytes := [0xff]

def emptyRow : Text.Bytes := Text.encode "[]".toList

/-- A month that there is not, a byte that begins no character, and an empty sequence. -/
theorem not_loadsAsPromised :
    (load badMonth = .error (.document (.badDate .month)) ∧ ¬LoadsAsPromised badMonth) ∧
    (load brokenByte = .error (.encoding ⟨.invalidStart, 0xff, 0, 1⟩) ∧ ¬LoadsAsPromised brokenByte) ∧
    load emptyRow = .ok default ∧ ¬LoadsAsPromised emptyRow := by
  have hmonth : load badMonth = .error (.document (.badDate .month)) := by decide +kernel
  have hbyte : load brokenByte = .error (.encoding ⟨.invalidStart, 0xff, 0, 1⟩) := by decide +kernel
  have hrow : load emptyRow = .ok default := by decide +kernel
  have hvalue : documentValue emptyRow = .ok (.other true) := by decide +kernel
  refine ⟨⟨hmonth, fun h => ?_⟩, ⟨hbyte, fun h => ?_⟩, hrow, fun h => ?_⟩
  · exact absurd (h.reported _ hmonth).1 (by decide)
  · exact absurd (h.reported _ hbyte).1 (by decide)
  · rcases h.given _ hrow with hnull | ⟨entries, hmapping, -⟩
    · cases hvalue.symm.trans hnull
    · cases hvalue.symm.trans hmapping

end Options
end MarkupCode
