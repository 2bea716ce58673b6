import MarkupCode.Text.Interval

/-!
# Pieces of a text

A text falls into the pieces between the occurrences of a separator, of which there is always at least
one. Joining them with the separator gives the text back. `runPieces` takes whole runs of the separator
together, and `cutAt?` cuts a text at the first occurrence of a pattern.
-/

namespace MarkupCode.Text

def pieces (separator : Char) : Text → List Text
  | [] => [[]]
  | c :: rest =>
    if c = separator then [] :: pieces separator rest
    else match pieces separator rest with
      | [] => [[c]]
      | p :: ps => (c :: p) :: ps

theorem pieces_ne_nil (separator : Char) (s : Text) : pieces separator s ≠ [] := by
  cases s with
  | nil => simp [pieces]
  | cons c r =>
    unfold pieces
    split
    · simp
    · split <;> simp

theorem separator_notMem_pieces {separator : Char} {s p : Text} (h : p ∈ pieces separator s) :
    separator ∉ p := by
  induction s generalizing p with
  | nil => simp_all [pieces]
  | cons c r ih =>
    unfold pieces at h
    split at h
    · rcases List.mem_cons.1 h with rfl | h
      · simp
      · exact ih h
    · rename_i hc
      split at h
      · next e => exact absurd e (pieces_ne_nil _ _)
      · next q qs e =>
        rcases List.mem_cons.1 h with rfl | h
        · intro hm
          rcases List.mem_cons.1 hm with rfl | hm
          · exact hc rfl
          · exact ih (e ▸ List.mem_cons_self) hm
        · exact ih (e ▸ List.mem_cons_of_mem _ h)

/-- Nothing is lost between the pieces but the separators. -/
theorem intercalate_pieces (separator : Char) (s : Text) :
    [separator].intercalate (pieces separator s) = s := by
  induction s with
  | nil => rfl
  | cons c r ih =>
    unfold pieces
    split
    · next hc =>
      subst hc
      obtain ⟨p, ps, e⟩ := List.exists_cons_of_ne_nil (pieces_ne_nil c r)
      rw [e] at ih ⊢
      rw [List.intercalate_cons_cons, ih]
      rfl
    · split
      · next e => exact absurd e (pieces_ne_nil _ _)
      · next p ps e =>
        rw [e] at ih
        rw [List.intercalate_cons_cons_left, ih]

/-- The pieces of a text between its runs of a character. -/
def runPieces (separator : Char) (s : Text) : List Text :=
  match _h : s.dropWhile (· ≠ separator) with
  | [] => [s.takeWhile (· ≠ separator)]
  | _ :: rest =>
    s.takeWhile (· ≠ separator) :: runPieces separator (rest.dropWhile (· = separator))
termination_by s.length
decreasing_by
  have h1 := (List.dropWhile_suffix (l := s) (· ≠ separator)).length_le
  have h2 := (List.dropWhile_suffix (l := rest) (· = separator)).length_le
  rw [_h, List.length_cons] at h1
  omega

def cutAt? (pattern : Text) (s : Text) : Option (Text × Text) :=
  if pattern <+: s then some ([], s.drop pattern.length)
  else match s with
    | [] => none
    | c :: rest => (cutAt? pattern rest).map fun p => (c :: p.1, p.2)

end MarkupCode.Text
