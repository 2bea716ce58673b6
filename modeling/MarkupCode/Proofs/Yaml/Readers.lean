import MarkupCode.Proofs.Outcome
import MarkupCode.Yaml.Unreadable

/-!
# Readers stay in their text

Every reader of a document moves forward in the text only, and fails as a document may: it finds it
malformed, or meets the number of a character that there is not or a version of too many digits. The
digits that it tells of stand in the text.
-/

namespace MarkupCode.Yaml

open Outcome

def Within (text : Text) (k : Cursor) : Prop := k.rest <:+ text

namespace Cursor

variable {text : Text} {k : Cursor}

theorem rest_step (k : Cursor) : k.step.rest = k.rest.drop 1 := by
  unfold step
  split
  · next h => rw [h, List.drop_nil]
  · next c rest h =>
    rw [h, List.drop_one, List.tail_cons]
    split <;> rfl

theorem rest_skip (k : Cursor) (n : Nat) : (k.skip n).rest = k.rest.drop n := by
  induction n generalizing k with
  | zero => rfl
  | succ n ih => rw [skip, ih, rest_step, List.drop_drop, Nat.add_comm]

theorem within_step (h : Within text k) : Within text k.step := by
  rw [Within, rest_step]
  exact (List.drop_suffix _ _).trans h

theorem within_skip (h : Within text k) (n : Nat) : Within text (k.skip n) := by
  rw [Within, rest_skip]
  exact (List.drop_suffix _ _).trans h

theorem within_skipSpaces (h : Within text k) : Within text k.skipSpaces := within_skip h _

theorem within_skipComment (h : Within text k) : Within text k.skipComment := by
  unfold skipComment
  split
  · exact within_skip h _
  · exact h

theorem within_lineBreak (h : Within text k) : Within text k.lineBreak.2 := by
  unfold lineBreak
  split
  · split
    · exact within_step h
    · split
      · exact within_skip h 2
      · split
        · exact within_step h
        · exact h
  · exact h

end Cursor

namespace Scan

/-- The reader keeps to the text and fails as the text allows. -/
abbrev StaysIn (text : Text) {α : Type} (m : Scan α) : Prop :=
  Keeps (Within text) (FaultOf text) (fun _ => True) m

variable {text : Text} {α : Type}

theorem staysIn_malformed : StaysIn text (malformed : Scan α) := .throw (.malformed text)

theorem staysIn_peek (n : Nat) : StaysIn text (peek n) := .get_bind fun _ _ => .pure trivial

theorem staysIn_skip (n : Nat) : StaysIn text (skip n) := .modify fun _ h => Cursor.within_skip h n

theorem staysIn_lineBreak : StaysIn text lineBreak :=
  .modifyGet fun _ h => ⟨trivial, Cursor.within_lineBreak h⟩

theorem staysIn_skipSpaces : StaysIn text (modify (·.skipSpaces)) :=
  .modify fun _ h => Cursor.within_skipSpaces h

/-- A run is a part of the text. -/
theorem keeps_span (p : Char → Bool) :
    Keeps (Within text) (FaultOf text) (fun run => run <:+: text ∧ run.all p) (span p) :=
  .modifyGet fun _ h => ⟨⟨(List.takeWhile_prefix p).isInfix.trans h.isInfix, List.all_takeWhile⟩,
    Cursor.within_skip h _⟩

theorem staysIn_span (p : Char → Bool) : StaysIn text (span p) := (keeps_span p).mono fun _ _ => trivial

theorem staysIn_expect (p : Option Char → Bool) : StaysIn text (expect p) :=
  (staysIn_peek 0).bind fun _ => .ite (.pure trivial) staysIn_malformed

theorem staysIn_emptyLine : StaysIn text emptyLine := by
  refine .bind (.modify fun _ h => Cursor.within_skipComment (Cursor.within_skipSpaces h)) fun _ => ?_
  exact (staysIn_expect _).bind fun _ => staysIn_lineBreak.bind fun _ => .pure trivial

/-! ## Names, tags and directives -/

theorem staysIn_anchorName : StaysIn text anchorName := by
  refine (staysIn_skip 1).bind fun _ => (staysIn_span _).bind fun name => ?_
  exact .when staysIn_malformed fun _ => (staysIn_expect _).bind fun _ => .pure trivial

theorem staysIn_hexByte : StaysIn text hexByte :=
  .get_bind fun _ _ => .ite ((staysIn_skip 2).bind fun _ => .pure trivial) staysIn_malformed

theorem staysIn_escapedBytes (fuel : Nat) : StaysIn text (escapedBytes fuel) := by
  induction fuel with
  | zero => exact .pure trivial
  | succ fuel ih =>
    refine (staysIn_peek 0).bind fun c => .ite ?_ (.pure trivial)
    exact (staysIn_skip 1).bind fun _ => staysIn_hexByte.bind fun _ => ih.bind fun _ => .pure trivial

theorem staysIn_uriRun (fuel : Nat) : StaysIn text (uriRun fuel) := by
  induction fuel with
  | zero => exact .pure trivial
  | succ fuel ih =>
    refine (staysIn_span _).bind fun run => (staysIn_peek 0).bind fun c => .ite ?_ (.pure trivial)
    refine .get_bind fun k _ => (staysIn_escapedBytes _).bind fun bytes => ?_
    cases Text.decode bytes with
    | ok s => exact ih.bind fun _ => .pure trivial
    | error e => exact staysIn_malformed

theorem staysIn_uri : StaysIn text uri :=
  (staysIn_peek 0).bind fun _ => .ite (.get_bind fun _ _ => staysIn_uriRun _) staysIn_malformed

theorem staysIn_handle : StaysIn text handle := by
  refine (staysIn_peek 0).bind fun _ => .when staysIn_malformed fun _ => ?_
  refine (staysIn_skip 1).bind fun _ => (staysIn_peek 0).bind fun _ => .ite (.pure trivial) ?_
  refine (staysIn_span _).bind fun word => (staysIn_peek 0).bind fun _ => ?_
  exact .when staysIn_malformed fun _ => (staysIn_skip 1).bind fun _ => .pure trivial

theorem staysIn_tagBody : StaysIn text tagBody := by
  refine (staysIn_peek 1).bind fun c => ?_
  split
  · refine (staysIn_skip 2).bind fun _ => staysIn_uri.bind fun suffix => (staysIn_peek 0).bind fun _ => ?_
    exact .when staysIn_malformed fun _ => (staysIn_skip 1).bind fun _ => .pure trivial
  · refine .ite ((staysIn_skip 1).bind fun _ => .pure trivial) (.get_bind fun k _ => .ite ?_ ?_)
    · exact staysIn_handle.bind fun _ => staysIn_uri.bind fun _ => .pure trivial
    · exact (staysIn_skip 1).bind fun _ => staysIn_uri.bind fun _ => .pure trivial

theorem staysIn_tagName : StaysIn text tagName :=
  staysIn_tagBody.bind fun _ => (staysIn_expect _).bind fun _ => .pure trivial

theorem staysIn_versionNumber : StaysIn text versionNumber := by
  refine (keeps_span _).bind_of fun digits hdigits => .when staysIn_malformed fun _ => ?_
  exact .reject (fun hlong => .inr (.version hdigits.1 hdigits.2 hlong)) fun _ => .pure trivial

theorem staysIn_directiveBody : StaysIn text directiveBody := by
  refine (staysIn_span _).bind fun name => .when staysIn_malformed fun _ => ?_
  refine (staysIn_expect _).bind fun _ => .ite ?version (.ite ?tag ?other)
  case version =>
    refine staysIn_skipSpaces.bind fun _ => staysIn_versionNumber.bind fun major => ?_
    refine (staysIn_peek 0).bind fun _ => .when staysIn_malformed fun _ => (staysIn_skip 1).bind fun _ => ?_
    exact staysIn_versionNumber.bind fun _ => (staysIn_expect _).bind fun _ => .pure trivial
  case tag =>
    refine staysIn_skipSpaces.bind fun _ => staysIn_handle.bind fun h => (staysIn_peek 0).bind fun _ => ?_
    refine .when staysIn_malformed fun _ => staysIn_skipSpaces.bind fun _ => staysIn_uri.bind fun _ => ?_
    exact (staysIn_expect _).bind fun _ => .pure trivial
  case other => exact (staysIn_span _).bind fun _ => .pure trivial

theorem staysIn_directive : StaysIn text directive :=
  (staysIn_skip 1).bind fun _ => staysIn_directiveBody.bind fun _ => staysIn_emptyLine.bind fun _ =>
    .pure trivial

/-! ## Quoted scalars -/

theorem staysIn_quotedBreaks (fuel : Nat) : StaysIn text (quotedBreaks fuel) := by
  induction fuel with
  | zero => exact .pure trivial
  | succ fuel ih =>
    refine .get_bind fun _ _ => .when staysIn_malformed fun _ => (staysIn_span _).bind fun _ => ?_
    refine (staysIn_peek 0).bind fun _ => .ite ?_ (.pure trivial)
    exact staysIn_lineBreak.bind fun _ => ih.bind fun _ => .pure trivial

theorem staysIn_moreBreaks : StaysIn text moreBreaks := .get_bind fun _ _ => staysIn_quotedBreaks _

theorem staysIn_numberedEscape (width : Nat) : StaysIn text (numberedEscape width) := by
  refine .get_bind fun k hk => .reject (fun _ => .malformed text) fun hdigits => ?_
  have hinside : k.rest.take width <:+: text := (List.take_prefix _ _).isInfix.trans hk.isInfix
  have hhex : (k.rest.take width).all Text.isHexDigit := by
    rw [not_or, Bool.not_eq_true, Bool.not_eq_false'] at hdigits
    exact hdigits.2
  refine .reject (fun hhuge => .inr ?_) fun hnot => .reject (fun hlarge => .inr ?_) fun _ => ?_
  · rw [← decide_eq_true hhuge]
    exact .character hinside hhex (by omega)
  · rw [← decide_eq_false hnot]
    exact .character hinside hhex hlarge
  · exact (staysIn_skip width).bind fun _ => .pure trivial

theorem staysIn_escape : StaysIn text escape := by
  refine (staysIn_peek 0).bind fun c => ?_
  cases c with
  | none => exact staysIn_malformed
  | some c =>
    dsimp only
    split
    · exact (staysIn_skip 1).bind fun _ => .pure trivial
    · exact (staysIn_skip 1).bind fun _ => staysIn_numberedEscape _
    · exact .ite (staysIn_lineBreak.bind fun _ => staysIn_moreBreaks) staysIn_malformed

theorem staysIn_quotedWord (double : Bool) (fuel : Nat) : StaysIn text (quotedWord double fuel) := by
  induction fuel with
  | zero => exact .pure trivial
  | succ fuel ih =>
    -- Whatever ends a run, one character or two are skipped before the word goes on.
    have hmore : ∀ (n : Nat) (s : Text → Text),
        StaysIn text (do skip n; return s (← quotedWord double fuel)) :=
      fun n s => (staysIn_skip n).bind fun _ => ih.bind fun _ => .pure trivial
    refine (staysIn_span _).bind fun run => (staysIn_peek 0).bind fun c => ?_
    split
    · refine .ite (hmore 1 _) ((staysIn_peek 1).bind fun _ => .ite (hmore 2 _) (.pure trivial))
    · exact .ite (.pure trivial) (hmore 1 _)
    · refine (staysIn_skip 1).bind fun _ => ?_
      cases double with
      | true => exact staysIn_escape.bind fun _ => ih.bind fun _ => .pure trivial
      | false => exact ih.bind fun _ => .pure trivial
    · exact .pure trivial

theorem staysIn_quotedSpaces : StaysIn text quotedSpaces := by
  refine (staysIn_span _).bind fun blanks => (staysIn_peek 0).bind fun c => ?_
  cases c with
  | none => exact staysIn_malformed
  | some c =>
    refine .ite ?_ (.pure trivial)
    exact staysIn_lineBreak.bind fun _ => staysIn_moreBreaks.bind fun _ => .ite (.pure trivial) (.pure trivial)

theorem staysIn_quotedRest (double : Bool) (fuel : Nat) : StaysIn text (quotedRest double fuel) := by
  induction fuel with
  | zero => exact staysIn_malformed
  | succ fuel ih =>
    refine (staysIn_peek 0).bind fun _ => .ite ((staysIn_skip 1).bind fun _ => .pure trivial) ?_
    refine staysIn_quotedSpaces.bind fun _ => .get_bind fun _ _ => ?_
    exact (staysIn_quotedWord double _).bind fun _ => ih.bind fun _ => .pure trivial

theorem staysIn_quotedText (double : Bool) : StaysIn text (quotedText double) := by
  refine (staysIn_skip 1).bind fun _ => .get_bind fun _ _ => (staysIn_quotedWord double _).bind fun _ => ?_
  exact .get_bind fun _ _ => (staysIn_quotedRest double _).bind fun _ => .pure trivial

/-! ## Plain scalars -/

theorem staysIn_plainBreaks (fuel : Nat) : StaysIn text (plainBreaks fuel) := by
  induction fuel with
  | zero => exact .pure trivial
  | succ fuel ih =>
    refine (staysIn_peek 0).bind fun c => ?_
    cases c with
    | none => exact .pure trivial
    | some c =>
      refine .ite ((staysIn_skip 1).bind fun _ => ih) (.ite ?_ (.pure trivial))
      refine staysIn_lineBreak.bind fun _ => .get_bind fun _ _ => .ite (.pure trivial) ?_
      exact ih.bind fun _ => .pure trivial

theorem staysIn_plainSpaces : StaysIn text plainSpaces := by
  refine (staysIn_span _).bind fun blanks => (staysIn_peek 0).bind fun _ => .ite ?_ (.pure trivial)
  refine staysIn_lineBreak.bind fun _ => .get_bind fun _ _ => .ite (.pure trivial) ?_
  refine .get_bind fun _ _ => (staysIn_plainBreaks _).bind fun more => ?_
  cases more <;> exact .pure trivial

theorem staysIn_plainWords (inFlow : Bool) (column : Int) (fuel : Nat) (before : Text) (broken : Bool) :
    StaysIn text (plainWords inFlow column before broken fuel) := by
  induction fuel generalizing before broken with
  | zero => exact .pure trivial
  | succ fuel ih =>
    refine .get_bind fun _ _ => (staysIn_peek 0).bind fun _ => .ite (.pure trivial) (.get_bind fun _ _ => ?_)
    refine (staysIn_skip _).bind fun _ => staysIn_plainSpaces.bind fun next => ?_
    obtain ⟨spaces, broken'⟩ := next
    cases spaces with
    | none => exact .pure trivial
    | some spaces =>
      refine .get_bind fun _ _ => .ite (.pure trivial) ?_
      exact (ih spaces broken').bind fun _ => .pure trivial

theorem staysIn_plainText (inFlow : Bool) (indent : Int) : StaysIn text (plainText inFlow indent) :=
  .get_bind fun _ _ => staysIn_plainWords inFlow _ _ _ _

/-! ## Block scalars -/

theorem staysIn_depthMark : StaysIn text depthMark := by
  refine (staysIn_peek 0).bind fun c => ?_
  split
  · exact staysIn_malformed
  · exact (staysIn_skip 1).bind fun _ => .pure trivial
  · exact .pure trivial

theorem staysIn_chompingMark : StaysIn text chompingMark := by
  refine (staysIn_peek 0).bind fun c => ?_
  split
  · exact (staysIn_skip 1).bind fun _ => .pure trivial
  · exact .pure trivial

theorem staysIn_blockHeader : StaysIn text blockHeader := by
  have hend : ∀ marks : Chomping × Option Nat,
      StaysIn text (do expect endsWord; emptyLine; return (marks.1, marks.2)) :=
    fun marks => (staysIn_expect _).bind fun _ => staysIn_emptyLine.bind fun _ => .pure trivial
  refine staysIn_chompingMark.bind fun chomping => ?_
  cases chomping with
  | some c => exact staysIn_depthMark.bind fun depth => hend (c, depth)
  | none =>
    refine staysIn_depthMark.bind fun depth => ?_
    cases depth with
    | some n => exact staysIn_chompingMark.bind fun chomping => hend (chomping.getD .clip, some n)
    | none => exact hend (.clip, none)

theorem staysIn_firstBreaks (fuel widest : Nat) : StaysIn text (firstBreaks widest fuel) := by
  induction fuel generalizing widest with
  | zero => exact .pure trivial
  | succ fuel ih =>
    refine (staysIn_peek 0).bind fun c => ?_
    cases c with
    | none => exact .pure trivial
    | some c =>
      refine .ite ((staysIn_skip 1).bind fun _ => .get_bind fun _ _ => ih _) (.ite ?_ (.pure trivial))
      exact staysIn_lineBreak.bind fun _ => (ih widest).bind fun _ => .pure trivial

theorem staysIn_indentTo (column : Nat) : StaysIn text (indentTo column) :=
  .modify fun _ h => Cursor.within_skip h _

theorem staysIn_blockBreaks (column fuel : Nat) : StaysIn text (blockBreaks column fuel) := by
  induction fuel with
  | zero => exact .pure trivial
  | succ fuel ih =>
    refine (staysIn_indentTo column).bind fun _ => (staysIn_peek 0).bind fun _ => .ite ?_ (.pure trivial)
    exact staysIn_lineBreak.bind fun _ => ih.bind fun _ => .pure trivial

theorem staysIn_blockLines (folded : Bool) (chomping : Chomping) (column fuel : Nat) (breaks : Text) :
    StaysIn text (blockLines folded chomping column breaks fuel) := by
  induction fuel generalizing breaks with
  | zero => exact .pure trivial
  | succ fuel ih =>
    refine (staysIn_peek 0).bind fun starts => (staysIn_span _).bind fun line => ?_
    refine staysIn_lineBreak.bind fun first => .get_bind fun _ _ => ?_
    refine (staysIn_blockBreaks column _).bind fun more => .get_bind fun _ _ => .ite ?_ (.pure trivial)
    exact (ih more).bind fun _ => .pure trivial

theorem staysIn_blockText (folded : Bool) (indent : Int) : StaysIn text (blockText folded indent) := by
  refine (staysIn_skip 1).bind fun _ => staysIn_blockHeader.bind fun header => .get_bind fun k _ => ?_
  obtain ⟨chomping, depth⟩ := header
  have hlines : ∀ (breaks : Text) (column : Nat), StaysIn text (do
      let k' ← get
      if k'.column = column ∧ k'.rest ≠ [] then
        blockLines folded chomping column breaks (k.rest.length + 1)
      else return if chomping = .keep then breaks else []) :=
    fun breaks column => .get_bind fun _ _ => .ite (staysIn_blockLines _ _ _ _ _) (.pure trivial)
  cases depth with
  | some n => exact (staysIn_blockBreaks _ _).bind fun breaks => hlines breaks _
  | none => exact (staysIn_firstBreaks _ _).bind fun start => hlines start.1 _

end Scan
end MarkupCode.Yaml
