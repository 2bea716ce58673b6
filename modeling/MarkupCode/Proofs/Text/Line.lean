import MarkupCode.Text.Line

/-!
# Lines and what joins them

A line feed ends a line wherever it stands, so what is done to every line of a text is done apart to what
is before a line feed and to what is behind it. Indenting puts spaces in front of the text and behind each
of its line feeds, and nothing else; flushing left takes away whatever spaces a text begins with.
-/

namespace MarkupCode.Text

theorem pieces_append_separator (separator : Char) (s t : Text) :
    pieces separator (s ++ separator :: t) = pieces separator s ++ pieces separator t := by
  induction s with
  | nil => simp [pieces]
  | cons c s ih =>
    by_cases hc : c = separator
    · simp [pieces, hc, ih]
    · obtain ⟨p, ps, hp⟩ := List.exists_cons_of_ne_nil (pieces_ne_nil separator s)
      rw [hp] at ih
      simp [pieces, hc, ih, hp]

theorem intercalate_append {separator : Text} {ps qs : List Text} (hp : ps ≠ []) (hq : qs ≠ []) :
    separator.intercalate (ps ++ qs) =
      separator.intercalate ps ++ separator ++ separator.intercalate qs := by
  induction ps with
  | nil => exact absurd rfl hp
  | cons p ps ih =>
    cases ps with
    | nil => rw [List.singleton_append, List.intercalate_cons_of_ne_nil hq, List.intercalate_singleton]
    | cons r ps =>
      rw [List.cons_append, List.intercalate_cons_of_ne_nil (by simp), ih (by simp),
        List.intercalate_cons_cons]
      simp only [List.append_assoc]

theorem notMem_intercalate {c : Char} {separator : Text} (hs : c ∉ separator) {ps : List Text}
    (hp : ∀ p ∈ ps, c ∉ p) : c ∉ separator.intercalate ps := by
  induction ps with
  | nil => exact List.not_mem_nil
  | cons p ps ih =>
    obtain ⟨hfirst, hothers⟩ := List.forall_mem_cons.1 hp
    cases ps with
    | nil => rwa [List.intercalate_singleton]
    | cons q ps =>
      rw [List.intercalate_cons_cons, List.mem_append, List.mem_append]
      exact not_or.2 ⟨not_or.2 ⟨hfirst, hs⟩, ih hothers⟩

/-- The lines before and behind a line feed are changed apart. -/
theorem mapLines_append (f : Text → Text) (s t : Text) :
    mapLines f (s ++ '\n' :: t) = mapLines f s ++ '\n' :: mapLines f t := by
  unfold mapLines
  rw [pieces_append_separator, List.map_append,
    intercalate_append (by simp [pieces_ne_nil]) (by simp [pieces_ne_nil])]
  simp

/-- Texts that are joined by line feeds are changed apart. -/
theorem mapLines_intercalate (f : Text → Text) {ss : List Text} (hne : ss ≠ []) :
    mapLines f (['\n'].intercalate ss) = ['\n'].intercalate (ss.map (mapLines f)) := by
  induction ss with
  | nil => exact absurd rfl hne
  | cons s ss ih =>
    cases ss with
    | nil => rw [List.map_singleton, List.intercalate_singleton, List.intercalate_singleton]
    | cons t ss =>
      rw [List.intercalate_cons_cons, List.append_assoc, List.singleton_append, mapLines_append,
        ih (by simp), List.map_cons, List.map_cons, List.map_cons, List.intercalate_cons_cons,
        List.append_assoc, List.singleton_append]

/-! ### Flushing left -/

theorem flushLeft_append (s t : Text) :
    flushLeft (s ++ '\n' :: t) = flushLeft s ++ '\n' :: flushLeft t :=
  mapLines_append _ s t

theorem flushLeft_intercalate {ss : List Text} (hne : ss ≠ []) :
    flushLeft (['\n'].intercalate ss) = ['\n'].intercalate (ss.map flushLeft) :=
  mapLines_intercalate _ hne

theorem flushLeft_space_cons (s : Text) : flushLeft (' ' :: s) = flushLeft s := by
  obtain ⟨p, ps, hp⟩ := List.exists_cons_of_ne_nil (pieces_ne_nil '\n' s)
  have hcons : pieces '\n' (' ' :: s) = (' ' :: p) :: ps := by
    rw [pieces, if_neg (by decide), hp]
  rw [flushLeft, flushLeft, mapLines, mapLines, hcons, hp, List.map_cons, List.map_cons,
    List.dropWhile_cons_of_pos (by decide)]

theorem flushLeft_spaces_append {spaces : Text} (h : ∀ c ∈ spaces, c = ' ') (s : Text) :
    flushLeft (spaces ++ s) = flushLeft s := by
  induction spaces with
  | nil => rfl
  | cons c spaces ih =>
    rw [h c List.mem_cons_self, List.cons_append, flushLeft_space_cons]
    exact ih fun d hd => h d (List.mem_cons_of_mem c hd)

/-! ### Indenting -/

/-- Spaces behind every line feed; the first line stays where it is. -/
def hang (width : Nat) (s : Text) : Text :=
  s.flatMap fun c => if c = '\n' then '\n' :: List.replicate width ' ' else [c]

@[simp] theorem hang_append (width : Nat) (s t : Text) :
    hang width (s ++ t) = hang width s ++ hang width t :=
  List.flatMap_append

@[simp] theorem hang_newline_cons (width : Nat) (s : Text) :
    hang width ('\n' :: s) = '\n' :: (List.replicate width ' ' ++ hang width s) := rfl

theorem hang_cons {c : Char} (h : c ≠ '\n') (width : Nat) (s : Text) :
    hang width (c :: s) = c :: hang width s := by
  rw [hang, List.flatMap_cons, if_neg h]
  rfl

theorem hang_of_notMem {s : Text} (h : '\n' ∉ s) (width : Nat) : hang width s = s := by
  induction s with
  | nil => rfl
  | cons c s ih =>
    have hc : c ≠ '\n' := fun e => h (by simp [e])
    rw [hang_cons hc, ih fun m => h (List.mem_cons_of_mem c m)]

theorem hang_eq_nil_iff (width : Nat) (s : Text) : hang width s = [] ↔ s = [] := by
  constructor
  · intro h
    cases s with
    | nil => rfl
    | cons c s => by_cases hc : c = '\n' <;> simp [hang, hc] at h
  · rintro rfl
    rfl

theorem intercalate_map_spaces (width : Nat) {ps : List Text} (hne : ps ≠ []) (h : ∀ p ∈ ps, '\n' ∉ p) :
    ['\n'].intercalate (ps.map (List.replicate width ' ' ++ ·)) =
      List.replicate width ' ' ++ hang width (['\n'].intercalate ps) := by
  induction ps with
  | nil => exact absurd rfl hne
  | cons p ps ih =>
    have hp := hang_of_notMem (h p List.mem_cons_self) width
    cases ps with
    | nil => rw [List.map_singleton, List.intercalate_singleton, List.intercalate_singleton, hp]
    | cons q ps =>
      have ih := ih (by simp) fun r hr => h r (List.mem_cons_of_mem p hr)
      rw [List.map_cons, List.intercalate_cons_of_ne_nil (by simp), ih,
        List.intercalate_cons_cons]
      simp only [List.append_assoc, List.singleton_append, hang_append, hang_newline_cons, hp]

/-- Indenting a text is putting spaces in front of it and behind its line feeds. -/
theorem indent_eq_hang (width : Nat) (s : Text) :
    indent width s = List.replicate width ' ' ++ hang width s := by
  have h := intercalate_map_spaces width (pieces_ne_nil '\n' s) fun _ => newline_notMem_of_mem_lines
  rw [intercalate_pieces] at h
  exact h

end MarkupCode.Text
