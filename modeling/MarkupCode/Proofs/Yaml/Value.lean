import MarkupCode.Proofs.Yaml.Composer
import MarkupCode.Proofs.Yaml.Merging
import MarkupCode.Yaml.Document

/-!
# What reading a document ends with

A document has a value, is malformed, or cannot be read for one of the reasons that `Unreadable` lists
(`read_ends`). In the value no two keys are the same.
-/

namespace MarkupCode.Yaml

open Outcome

/-- Only truth values, numbers and dates can be written wrongly. -/
theorem Scalar.tag_of_ofText {t : Tag} {s : Text} {e : Error} (h : ofText t s = .error e)
    (he : e ≠ .malformed) : t ∈ [Tag.bool, .int, .float, .timestamp] := by
  cases t with
  | bool | int | float | timestamp => decide
  | null | str => cases h
  | binary =>
    simp only [ofText, binaryValue] at h
    split at h
    · split at h
      · cases h
      · exact absurd (Except.error.inj h).symm he
    · exact absurd (Except.error.inj h).symm he
  | omap | pairs | set | seq | map | merge | value | unknown => exact absurd (Except.error.inj h).symm he

namespace Graph

variable {g g' : Graph} {e : Error}

theorem Misreads.of_sameScalars (h : g.SameScalars g') (he : g'.Misreads e) : g.Misreads e := by
  -- No tag that can be misread is one that merging gives.
  have htag : ∀ i, (g'.node i).tag ∈ [Tag.bool, .int, .float, .timestamp] →
      (g'.node i).tag = (g.node i).tag := by
    intro i hi
    rcases h.tag i with htag | ⟨-, hstr⟩
    · exact htag
    · rw [hstr] at hi
      exact absurd hi (by decide)
  cases he with
  | @scalar i j s _ hs hown hi hfails hne =>
    have hi' := htag i hi
    rw [hi'] at hi hfails
    refine .scalar ((h.isScalar_iff j s).1 hs) (fun s' hs' => hown s' ?_) hi hfails hne
    exact (h.isScalar_iff i s').2 hs'
  | @date i hi hcollection =>
    refine .date ((htag i (by rw [hi]; decide)).symm.trans hi) fun s => ?_
    rw [← h.isScalar_iff]
    exact hcollection s

/-- The text that stands for a node is its own if it has one. -/
theorem scalarText_ends (g : Graph) (fuel i : Nat) :
    Ends (· = Error.malformed) (fun s => ∃ j, g.IsScalar j s ∧ ∀ s', g.IsScalar i s' → j = i)
      (scalarText g i fuel) := by
  induction fuel generalizing i with
  | zero => rfl
  | succ fuel ih =>
    unfold scalarText
    split
    · next s hs => exact ⟨i, hs, fun _ _ => rfl⟩
    · rfl
    · next entries hentries =>
      split
      · next e _ =>
        refine (ih e.2).mono fun s ⟨j, hs, _⟩ => ⟨j, hs, fun s' hs' => ?_⟩
        cases hentries.symm.trans hs'
      · rfl

/-- What is read from the text that stands for a node. -/
theorem ofText_ends {i j : Nat} {s : Text} (hs : g.IsScalar j s) (hown : ∀ s', g.IsScalar i s' → j = i) :
    Ends (fun e => e = .malformed ∨ g.Misreads e) (fun _ => True) (Scalar.ofText (g.node i).tag s) := by
  cases h : Scalar.ofText (g.node i).tag s with
  | ok v => trivial
  | error e =>
    by_cases he : e = .malformed
    · exact .inl he
    · exact .inr (.scalar hs hown (Scalar.tag_of_ofText h he) h he)

theorem scalarValue_ends (g : Graph) (i : Nat) :
    Ends (fun e => e = .malformed ∨ g.Misreads e) (fun _ => True) (scalarValue g i) := by
  have htext := scalarText_ends g (g.size + 1) i
  unfold scalarValue
  cases hs : scalarText g i (g.size + 1) with
  | error e =>
    rw [hs] at htext
    exact .inl htext
  | ok s =>
    rw [hs] at htext
    obtain ⟨j, hj, hown⟩ := htext
    have hvalue := ofText_ends hj hown
    rw [ok_bind]
    cases htag : (g.node i).tag with
    | timestamp =>
      dsimp only
      split
      · next s' hs' =>
        have hvalue' := ofText_ends (i := i) hs' fun _ _ => rfl
        rwa [htag] at hvalue'
      · next hnot => exact .inr (.date htag hnot)
    | _ =>
      rw [htag] at hvalue
      exact hvalue

end Graph

/-! ## Collections -/

namespace Value

def HasDistinctKeys (v : Value) : Prop := ∀ entries, v = .mapping entries → Entries.Distinct entries

theorem hasDistinctKeys_mapping (pairs : List (Scalar × Item)) :
    HasDistinctKeys (.mapping (Entries.ofPairs pairs)) := by
  intro entries h
  cases h
  exact Entries.distinct_ofPairs pairs

theorem hasDistinctKeys_other (isEmpty : Bool) : HasDistinctKeys (.other isEmpty) := fun _ h => nomatch h

end Value

namespace Construct

def HasScalarsOf (g : Graph) (p : Progress) : Prop := g.SameScalars p.graph

abbrev Reads (text : Text) (g : Graph) {α : Type} (Q : α → Prop) (m : Construct α) : Prop :=
  Keeps (HasScalarsOf g) (FaultOf text) Q m

variable {text : Text} {g : Graph} {root : Option Nat} {α : Type}

theorem reads_malformed {Q : α → Prop} : Reads text g Q (malformed : Construct α) := .throw (.malformed text)

theorem reads_setQueue (queue : List Nat) :
    Reads text g (fun _ => True) (modify fun p => { p with queue }) := .modify fun _ hp => hp

theorem reads_item (h : compose text = .ok (g, root)) (id : Nat) : Reads text g (fun _ => True) (item id) := by
  refine .get_bind fun p hp => .ite (.when (.set hp) fun _ => .pure trivial) ?_
  have hvalue := p.graph.scalarValue_ends id
  split
  · exact .pure trivial
  · next e he =>
    rw [he] at hvalue
    exact .throw (hvalue.imp_right fun hmis => .node h (hmis.of_sameScalars hp))

theorem reads_entry (h : compose text = .ok (g, root)) (e : Nat × Nat) :
    Reads text g (fun _ => True) (entry e) := by
  refine (reads_item h e.1).bind fun key => ?_
  cases key with
  | scalar key => exact (reads_item h e.2).bind fun _ => .pure trivial
  | collection => exact reads_malformed

theorem reads_entries (h : compose text = .ok (g, root)) (id : Nat) :
    Reads text g (fun _ => True) (entries id) := by
  refine .get_bind fun p hp => ?_
  split
  · have hmerge := p.graph.merge_ends id
    split
    · next graph hgraph =>
      rw [hgraph] at hmerge
      have hgraph' : HasScalarsOf g { p with graph } := hp.trans hmerge
      exact (Keeps.set hgraph').bind fun _ => .mapM (reads_entry h) _
    · next e he =>
      rw [he] at hmerge
      exact .throw (.inl hmerge)
  · exact reads_malformed

theorem reads_items (id : Nat) : Reads text g (fun _ => True) (items id) := by
  refine .get_bind fun p hp => ?_
  split
  · exact .pure trivial
  · exact reads_malformed

theorem reads_onePair (h : compose text = .ok (g, root)) (id : Nat) :
    Reads text g (fun _ => True) (onePair id) := by
  refine .get_bind fun p hp => ?_
  split
  · exact (reads_item h _).bind fun _ => (reads_item h _).bind fun _ => .pure trivial
  · exact reads_malformed

theorem reads_collection (h : compose text = .ok (g, root)) (id : Nat) :
    Reads text g Value.HasDistinctKeys (collection id) := by
  refine .get_bind fun p hp => ?_
  split
  · exact (reads_entries h id).bind fun pairs => .pure (Value.hasDistinctKeys_mapping pairs)
  · exact (reads_entries h id).bind fun _ => .pure (Value.hasDistinctKeys_other _)
  · refine (reads_items id).bind fun ids => (Keeps.mapM (reads_item h) ids).bind fun _ => ?_
    exact .pure (Value.hasDistinctKeys_other _)
  · refine (reads_items id).bind fun ids => (Keeps.forM (reads_onePair h) ids).bind fun _ => ?_
    exact .pure (Value.hasDistinctKeys_other _)

theorem reads_drain (h : compose text = .ok (g, root)) (fuel : Nat) :
    Reads text g (fun _ => True) (drain fuel) := by
  induction fuel with
  | zero => exact .pure trivial
  | succ fuel ih =>
    refine .get_bind fun p hp => ?_
    split
    · exact .pure trivial
    · exact (reads_setQueue _).bind fun _ => (reads_collection h _).bind fun _ => ih

theorem reads_root (h : compose text = .ok (g, root)) (id : Nat) :
    Reads text g Value.HasDistinctKeys (Construct.root id) := by
  refine (reads_item h id).bind fun i => ?_
  cases i with
  | scalar s => exact .pure fun _ h => nomatch h
  | collection =>
    refine (reads_setQueue _).bind fun _ => (reads_collection h id).bind_of fun v hv => ?_
    exact .get_bind fun p _ => (reads_drain h _).bind fun _ => .pure hv

end Construct

theorem read_ends (text : Text) : Ends (FaultOf text) Value.HasDistinctKeys (read text) := by
  unfold read
  cases h : compose text with
  | error e => exact faultOf_of_compose h
  | ok r =>
    obtain ⟨g, root⟩ := r
    rw [ok_bind]
    cases root with
    | none => exact .pure fun _ h => nomatch h
    | some id => exact (Construct.reads_root h id { graph := g } (.refl g)).bind fun r hr => .pure hr.1

end MarkupCode.Yaml
