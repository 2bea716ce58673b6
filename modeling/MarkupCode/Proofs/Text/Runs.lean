import Mathlib.Data.List.TakeWhile
import MarkupCode.Proofs.Text.Scan
import MarkupCode.Text.Pieces

/-!
# Runs of a separator

A text is a piece without the separator, or such a piece with a run of the separator behind it and then a
text that begins otherwise. `runPieces` is told by these two cases, and so is every proof by induction over
the runs of a text.
-/

namespace MarkupCode.Text

variable {separator : Char} {p s : Text}

theorem runPieces_of_notMem (h : separator ∉ s) : runPieces separator s = [s] := by
  have hall : ∀ c ∈ s, (decide (c ≠ separator)) = true := fun c hc =>
    decide_eq_true fun e => h (e ▸ hc)
  have hdrop : s.dropWhile (· ≠ separator) = [] := List.dropWhile_eq_nil_iff.2 hall
  have htake : s.takeWhile (· ≠ separator) = s := List.takeWhile_eq_self_iff.2 hall
  rw [runPieces]
  split
  · rw [htake]
  · next h' => rw [hdrop] at h'; cases h'

/-- A run of the separator ends a piece, however long it is. -/
theorem runPieces_append_run (hp : separator ∉ p) (k : Nat) (hs : s.head? ≠ some separator) :
    runPieces separator (p ++ (List.replicate (k + 1) separator ++ s)) = p :: runPieces separator s := by
  have hall : ∀ c ∈ p, (decide (c ≠ separator)) = true := fun c hc =>
    decide_eq_true fun e => hp (e ▸ hc)
  have hstop : ∀ c ∈ (List.replicate (k + 1) separator ++ s).head?, decide (c ≠ separator) = false := by
    simp [List.replicate_succ]
  have hrun : (List.replicate k separator ++ s).dropWhile (· = separator) = s := by
    apply dropWhile_append_stop
    · exact fun c hc => decide_eq_true (List.eq_of_mem_replicate hc)
    · exact fun c hc => decide_eq_false fun e => hs (e ▸ hc)
  have hdrop := dropWhile_append_stop hall hstop
  have htake := takeWhile_append_stop hall hstop
  rw [List.replicate_succ, List.cons_append] at hdrop htake ⊢
  rw [runPieces]
  split
  · next h' => rw [hdrop] at h'; cases h'
  · next h' =>
    rw [hdrop] at h'
    cases h'
    rw [htake, hrun]

theorem exists_run (separator : Char) (s : Text) :
    ∃ k rest, s = List.replicate k separator ++ rest ∧ rest.head? ≠ some separator := by
  induction s with
  | nil => exact ⟨0, [], rfl, by simp⟩
  | cons c s ih =>
    by_cases hc : c = separator
    · obtain ⟨k, rest, rfl, hrest⟩ := ih
      exact ⟨k + 1, rest, by simp [hc, List.replicate_succ], hrest⟩
    · exact ⟨0, c :: s, rfl, by simpa using hc⟩

/-- Proof by induction over the runs of a text. -/
theorem runs_induction (separator : Char) {P : Text → Prop} (piece : ∀ p, separator ∉ p → P p)
    (run : ∀ p k s, separator ∉ p → s.head? ≠ some separator → P s →
      P (p ++ (List.replicate (k + 1) separator ++ s))) (s : Text) : P s := by
  by_cases h : separator ∈ s
  · obtain ⟨p, rest, hsplit, hp⟩ := List.eq_append_cons_of_mem h
    obtain ⟨k, behind, rfl, hbehind⟩ := exists_run separator rest
    have hlength : behind.length < s.length := by simp [hsplit]; omega
    rw [hsplit]
    exact run p k behind hp hbehind (runs_induction separator piece run behind)
  · exact piece s h
termination_by s.length

theorem separator_notMem_runPieces (s : Text) : ∀ p ∈ runPieces separator s, separator ∉ p := by
  induction s using runs_induction separator with
  | piece p hp =>
    rw [runPieces_of_notMem hp]
    simpa using hp
  | run p k s hp hs ih =>
    rw [runPieces_append_run hp k hs]
    exact List.forall_mem_cons.2 ⟨hp, ih⟩

end MarkupCode.Text
