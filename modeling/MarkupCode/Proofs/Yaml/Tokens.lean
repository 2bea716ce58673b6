import MarkupCode.Proofs.Yaml.Readers

/-!
# The scanner stays in its text

Each token is read by a reader that stays in the text, and between tokens the scanner moves forward only.
So the fault that ends a scan is one that the text may meet (`faultOf_of_tokens`).
-/

namespace MarkupCode.Yaml

open Outcome

namespace Scanner

abbrev StaysIn (text : Text) (r : Result) : Prop := Ends (FaultOf text) (fun s => Within text s.cursor) r

variable {text : Text} {s : Scanner}

theorem staysIn_malformed : StaysIn text (.error .malformed) := FaultOf.malformed text

theorem cursor_unwindGo (column : Int) (is : List Int) (s : Scanner) :
    (unwind.go column s is).cursor = s.cursor := by
  induction is generalizing s with
  | nil => rfl
  | cons i is ih =>
    unfold unwind.go
    split
    · exact ih _
    · rfl

theorem cursor_unwind (s : Scanner) (column : Int) : (s.unwind column).cursor = s.cursor := by
  unfold unwind
  split
  · rfl
  · exact cursor_unwindGo column _ s

theorem cursor_addIndent (s : Scanner) (column : Int) : (s.addIndent column).2.cursor = s.cursor := by
  unfold addIndent
  split <;> rfl

theorem cursor_beginBlock (s : Scanner) (t : Token) : (s.beginBlock t).cursor = s.cursor := by
  rw [← cursor_addIndent s s.column]
  unfold beginBlock
  split
  · next h => rw [h]; rfl
  · next h => rw [h]

theorem within_advance (h : Within text s.cursor) (n : Nat) : Within text (s.advance n).cursor :=
  Cursor.within_skip h n

theorem within_skipToToken (fuel : Nat) (h : Within text s.cursor) :
    Within text (s.skipToToken fuel).cursor := by
  induction fuel generalizing s with
  | zero => exact h
  | succ fuel ih =>
    have hnext := Cursor.within_skipComment (Cursor.within_skipSpaces h)
    unfold skipToToken
    dsimp only
    split
    · exact ih (Cursor.within_lineBreak hnext)
    · exact hnext

theorem staysIn_dropStale (h : Within text s.cursor) : StaysIn text s.dropStale :=
  .ite staysIn_malformed h

theorem staysIn_dropCandidate (h : Within text s.cursor) : StaysIn text s.dropCandidate := by
  unfold dropCandidate
  split
  · exact h
  · exact .ite staysIn_malformed h

theorem staysIn_saveCandidate (h : Within text s.cursor) : StaysIn text s.saveCandidate :=
  .ite ((staysIn_dropCandidate h).bind fun _ h' => h') h

theorem reading_ends {α : Type} {r : Scan α} (hr : r.StaysIn text) (h : Within text s.cursor) :
    Ends (FaultOf text) (fun x => Within text x.2.cursor) (s.reading r) :=
  (hr s.cursor h).bind fun _ hx => hx.2

/-! ## One token -/

/-- What begins a block outside brackets leaves the cursor where it is. -/
theorem within_block (h : Within text s.cursor) (t : Token) :
    Within text (if s.inFlow then s else s.beginBlock t).cursor := by
  split
  · exact h
  · rwa [cursor_beginBlock]

theorem staysIn_documentMarker (h : Within text s.cursor) (t : Token) : StaysIn text (s.documentMarker t) := by
  rw [← cursor_unwind s (-1)] at h
  refine (staysIn_dropCandidate h).bind fun s' h' => ?_
  exact .pure (within_advance (s := { s' with keyAllowed := false }) h' 3)

theorem staysIn_directive (h : Within text s.cursor) : StaysIn text s.directive := by
  rw [← cursor_unwind s (-1)] at h
  refine (staysIn_dropCandidate h).bind fun s' h' => ?_
  refine (reading_ends (s := { s' with keyAllowed := false }) Scan.staysIn_directive h').bind fun x hx => ?_
  exact .pure hx

theorem staysIn_openFlow (h : Within text s.cursor) (t : Token) : StaysIn text (s.openFlow t) := by
  refine (staysIn_saveCandidate h).bind fun s' h' => ?_
  exact .pure (Cursor.within_skip h' 1)

theorem staysIn_closeFlow (h : Within text s.cursor) (t : Token) : StaysIn text (s.closeFlow t) := by
  refine (staysIn_dropCandidate h).bind fun s' h' => .ite ?_ staysIn_malformed
  exact .pure (Cursor.within_skip h' 1)

theorem staysIn_flowEntry (h : Within text s.cursor) : StaysIn text s.flowEntry := by
  refine (staysIn_dropCandidate (s := { s with keyAllowed := true }) h).bind fun s' h' => ?_
  exact .pure (Cursor.within_skip h' 1)

theorem staysIn_mark (h : Within text s.cursor) (start t : Token) (keyInFlow : Bool) :
    StaysIn text (s.mark start t keyInFlow) := by
  unfold mark
  refine .reject (fun _ => .malformed text) fun _ => ?_
  refine (staysIn_dropCandidate ?_).bind fun s' h' => .pure (Cursor.within_skip h' 1)
  exact within_block h _

theorem staysIn_value (h : Within text s.cursor) : StaysIn text s.value := by
  unfold value
  split
  · refine .pure (within_advance ?_ 1)
    split
    · exact h
    · split
      all_goals
        next s' hs =>
        have hcursor : s'.cursor = s.cursor := (congrArg (·.2.cursor) hs).symm.trans (cursor_addIndent _ _)
        change Within text s'.cursor
        rwa [hcursor]
  · exact staysIn_mark h ..

theorem staysIn_item {α : Type} {r : Scan α} (hr : r.StaysIn text) (h : Within text s.cursor)
    (t : α → Token) : StaysIn text (s.item r t) := by
  refine (staysIn_saveCandidate h).bind fun s' h' => ?_
  refine (reading_ends (s := { s' with keyAllowed := false }) hr h').bind fun x hx => ?_
  exact .pure hx

theorem staysIn_block (h : Within text s.cursor) (folded : Bool) : StaysIn text (s.block folded) := by
  refine (staysIn_dropCandidate (s := { s with keyAllowed := true }) h).bind fun s' h' => ?_
  refine (reading_ends (Scan.staysIn_blockText folded _) h').bind fun x hx => ?_
  exact .pure hx

theorem staysIn_plain (h : Within text s.cursor) : StaysIn text s.plain := by
  refine (staysIn_saveCandidate h).bind fun s' h' => ?_
  refine (reading_ends (Scan.staysIn_plainText _ _) h').bind fun x hx => ?_
  exact .pure hx

theorem staysIn_token (h : Within text s.cursor) (c : Char) : StaysIn text (s.token c) := by
  unfold token
  refine .ite (staysIn_directive h) (.ite (staysIn_documentMarker h _) (.ite (staysIn_documentMarker h _) ?_))
  refine .ite (staysIn_openFlow h _) (.ite (staysIn_openFlow h _) ?_)
  refine .ite (staysIn_closeFlow h _) (.ite (staysIn_closeFlow h _) (.ite (staysIn_flowEntry h) ?_))
  refine .ite (staysIn_mark h ..) (.ite (staysIn_mark h ..) (.ite (staysIn_value h) ?_))
  refine .ite (staysIn_item Scan.staysIn_anchorName h _) (.ite (staysIn_item Scan.staysIn_anchorName h _) ?_)
  refine .ite (staysIn_item Scan.staysIn_tagName h _) (.ite (staysIn_block h _) (.ite (staysIn_block h _) ?_))
  refine .ite (staysIn_item (Scan.staysIn_quotedText _) h _) ?_
  exact .ite (staysIn_item (Scan.staysIn_quotedText _) h _) (.ite (staysIn_plain h) staysIn_malformed)

/-! ## The whole scan -/

theorem faultOf_of_run (fuel : Nat) (h : Within text s.cursor) {e : Error}
    (he : (s.run fuel).2 = some e) : FaultOf text e := by
  induction fuel generalizing s with
  | zero =>
    cases he
    exact .malformed text
  | succ fuel ih =>
    have hstale := staysIn_dropStale (within_skipToToken (s.cursor.rest.length + 1) h)
    unfold run at he
    split at he
    · next hfault =>
      cases he
      rwa [hfault] at hstale
    · next next hnext =>
      rw [hnext] at hstale
      have hhere : Within text (next.unwind next.column).cursor := (cursor_unwind ..).symm ▸ hstale
      dsimp only at he
      split at he
      · have hend := staysIn_dropCandidate ((cursor_unwind _ (-1)).symm ▸ hhere)
        split at he
        · next hfault =>
          cases he
          rwa [hfault] at hend
        · cases he
      · next c _ =>
        have htoken := staysIn_token hhere c
        split at he
        · next hfault =>
          cases he
          rwa [hfault] at htoken
        · next hnext' =>
          rw [hnext'] at htoken
          exact ih htoken he

end Scanner

theorem faultOf_of_tokens {text : Text} {e : Error} (h : (tokens text).2 = some e) : FaultOf text e := by
  have hstart : Within text { rest := text } := List.suffix_refl text
  unfold tokens at h
  split at h
  · refine Scanner.faultOf_of_run (s := { cursor := _ }) _ ?_ h
    split
    · exact Cursor.within_step hstart
    · exact hstart
  · cases h
    exact .malformed text

end MarkupCode.Yaml
