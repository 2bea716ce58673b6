import MarkupCode.Proofs.Code.Layout
import MarkupCode.Proofs.Text.Line

/-!
# Indentation is cosmetic

Every indentation in a code stands behind a line feed, so all of it goes when the lines are flushed left.
What is left is the same at any level and under any options: two codes of one tree, or of one document,
differ in nothing but the spaces that their lines begin with, whatever names and scripts hold.
-/

namespace MarkupCode.Code

/-! ### Child lists -/

theorem flushLeft_lines {inner : Text} (hi : ∀ c ∈ inner, c = ' ') (s : Text) (codes : List Text)
    (t : Text) :
    Text.flushLeft (s ++ (lines inner codes ++ '\n' :: t)) =
      Text.flushLeft s ++ (lines [] (codes.map Text.flushLeft) ++ '\n' :: Text.flushLeft t) := by
  induction codes generalizing s with
  | nil => exact Text.flushLeft_append s t
  | cons code codes ih =>
    rw [lines_cons, List.append_assoc, List.cons_append, Text.flushLeft_append, ih,
      Text.flushLeft_spaces_append hi, List.map_cons, lines_cons]
    simp only [List.nil_append, List.cons_append, List.append_assoc]

def flushedList (head : Text) (codes : List Text) : Text :=
  if codes = [] then Text.flushLeft (head ++ " []".toList)
  else Text.flushLeft (head ++ " [".toList) ++ (lines [] codes ++ "\n]".toList)

/-- The place of a child list leaves no trace once its lines are flushed left. -/
theorem flushLeft_childList {o : Options} {level : Int} {codes : List Text} {body : Text}
    (h : childList o level codes = .ok body) (head : Text) :
    Text.flushLeft (head ++ ' ' :: body) =
      flushedList head ((codes.filter (· ≠ [])).map Text.flushLeft) := by
  obtain ⟨hshown, rfl⟩ | ⟨hshown, inner, outer, hi, ho, rfl⟩ := childList_eq_ok_iff.1 h
  · rw [hshown]
    rfl
  · have hcode : head ++ ' ' :: bracketed inner outer (codes.filter (· ≠ [])) =
        head ++ " [".toList ++ (lines inner (codes.filter (· ≠ [])) ++ '\n' :: (outer ++ [']'])) := by
      simp [bracketed]
    rw [flushedList, if_neg (by simpa using hshown), hcode,
      flushLeft_lines (eq_space_of_mem_indentation hi),
      Text.flushLeft_spaces_append (eq_space_of_mem_indentation ho)]
    rfl

/-! ### Trees -/

variable {o₁ o₂ : Options}

def SameFlushed (o₁ o₂ : Options) (n : Node) : Prop :=
  ∀ (l₁ l₂ : Int) (c₁ c₂ : Text), layout o₁ l₁ n = .ok c₁ → layout o₂ l₂ n = .ok c₂ →
    Text.flushLeft c₁ = Text.flushLeft c₂

theorem map_flushLeft_layouts {ns : List Node} (h : ∀ n ∈ ns, SameFlushed o₁ o₂ n) {l₁ l₂ : Int}
    {codes₁ codes₂ : List Text} (h₁ : layouts o₁ l₁ ns = .ok codes₁)
    (h₂ : layouts o₂ l₂ ns = .ok codes₂) :
    codes₁.map Text.flushLeft = codes₂.map Text.flushLeft := by
  induction ns generalizing codes₁ codes₂ with
  | nil => rw [← Except.ok.inj h₁, ← Except.ok.inj h₂]
  | cons n ns ih =>
    obtain ⟨hn, hns⟩ := List.forall_mem_cons.1 h
    obtain ⟨c₁, hc₁, h₁⟩ := Outcome.exists_of_bind_ok h₁
    obtain ⟨more₁, hm₁, h₁⟩ := Outcome.exists_of_bind_ok h₁
    obtain ⟨c₂, hc₂, h₂⟩ := Outcome.exists_of_bind_ok h₂
    obtain ⟨more₂, hm₂, h₂⟩ := Outcome.exists_of_bind_ok h₂
    rw [← Except.ok.inj h₁, ← Except.ok.inj h₂, List.map_cons, List.map_cons,
      hn l₁ l₂ c₁ c₂ hc₁ hc₂, ih hns hm₁ hm₂]

/-- The same for the codes that a child list or a document shows. -/
theorem map_flushLeft_shown {ns : List Node} (h : ∀ n ∈ ns, SameFlushed o₁ o₂ n) {l₁ l₂ : Int}
    {codes₁ codes₂ : List Text} (h₁ : layouts o₁ l₁ ns = .ok codes₁)
    (h₂ : layouts o₂ l₂ ns = .ok codes₂) :
    (codes₁.filter (· ≠ [])).map Text.flushLeft = (codes₂.filter (· ≠ [])).map Text.flushLeft :=
  map_flushLeft_layouts (fun n hn => h n (List.mem_filter.1 hn).1) (layouts_filter_of_ok h₁)
    (layouts_filter_of_ok h₂)

theorem sameFlushed (o₁ o₂ : Options) (n : Node) : SameFlushed o₁ o₂ n := by
  induction n using Node.induction with
  | step n ih =>
    intro l₁ l₂ c₁ c₂ h₁ h₂
    obtain ⟨kind, name, attrs, children, text⟩ := n
    cases kind with
    | text => rw [← Except.ok.inj h₁, ← Except.ok.inj h₂]
    | script =>
      obtain ⟨body₁, hb₁, rfl⟩ := layout_script_eq_ok_iff.1 h₁
      obtain ⟨body₂, hb₂, rfl⟩ := layout_script_eq_ok_iff.1 h₂
      rw [flushLeft_childList hb₁, flushLeft_childList hb₂]
    | element =>
      by_cases hv : isVoid name
      · rw [layout, if_pos hv] at h₁ h₂
        rw [← Except.ok.inj h₁, ← Except.ok.inj h₂]
      · obtain ⟨codes₁, body₁, hc₁, hb₁, rfl⟩ := (layout_element_eq_ok_iff hv).1 h₁
        obtain ⟨codes₂, body₂, hc₂, hb₂, rfl⟩ := (layout_element_eq_ok_iff hv).1 h₂
        rw [flushLeft_childList hb₁, flushLeft_childList hb₂, map_flushLeft_shown ih hc₁ hc₂]
    | document => rw [← Except.ok.inj h₁, ← Except.ok.inj h₂]
    | other => rw [← Except.ok.inj h₁, ← Except.ok.inj h₂]
    | unknown label => rw [← Except.ok.inj h₁, ← Except.ok.inj h₂]

/-- Flushed left, two codes of one node are the same, and so are two codes of one document. -/
theorem flushLeft_emitNode_and_emitDocument (o₁ o₂ : Options) :
    (∀ (n : Node) (l₁ l₂ : Int) (c₁ c₂ : Text), emitNode o₁ l₁ n = .ok c₁ → emitNode o₂ l₂ n = .ok c₂ →
      Text.flushLeft c₁ = Text.flushLeft c₂) ∧
    ∀ (doc : Node) (c₁ c₂ : Text), emitDocument o₁ doc = .ok c₁ → emitDocument o₂ doc = .ok c₂ →
      Text.flushLeft c₁ = Text.flushLeft c₂ := by
  constructor
  · intro n l₁ l₂ c₁ c₂ h₁ h₂
    rw [emitNode_eq_layout] at h₁ h₂
    exact sameFlushed o₁ o₂ n l₁ l₂ c₁ c₂ h₁ h₂
  · intro doc c₁ c₂ h₁ h₂
    rw [emitDocument_eq_map] at h₁ h₂
    obtain ⟨codes₁, hc₁, rfl⟩ := Outcome.exists_of_map_ok h₁
    obtain ⟨codes₂, hc₂, rfl⟩ := Outcome.exists_of_map_ok h₂
    have hmap := map_flushLeft_layouts (fun n _ => sameFlushed o₁ o₂ n) hc₁ hc₂
    by_cases hne : codes₁ = []
    · have hne₂ : codes₂ = [] := by simpa [hne] using hmap
      rw [hne, hne₂]
    · have hne₂ : codes₂ ≠ [] := by
        intro e
        exact hne (by simpa [e] using hmap)
      rw [Text.flushLeft_intercalate hne, Text.flushLeft_intercalate hne₂, hmap]

def ragged : Node :=
  .element "a\n  b".toList [] [.element "script".toList [] [.ofText "if (a)\n  b".toList]]

def raggedOuter : Text :=
  "_a\n  b [] [\n_script [] [\n   _text \"if (a)\n  b\"\n]\n]".toList

def raggedInner : Text :=
  "_a\n  b [] [\n  _script [] [\n   _text \"if (a)\n  b\"\n  ]\n ]".toList

def raggedWide : Text :=
  "_a\n  b [] [\n   _script [] [\n      _text \"if (a)\n  b\"\n   ]\n]".toList

def raggedNarrow : Text :=
  "_a\n  b [] [\n _script [] [\n  _text \"if (a)\n  b\"\n ]\n]".toList

theorem flushLeft_ragged :
    emitNode { indentSize := 3 } (-1) ragged = .ok raggedOuter ∧
      emitNode { indentSize := 1 } 1 ragged = .ok raggedInner ∧
      Text.flushLeft raggedOuter = Text.flushLeft raggedInner ∧
      emitDocument { indentSize := 3 } (.document [ragged]) = .ok raggedWide ∧
      emitDocument { indentSize := 1 } (.document [ragged]) = .ok raggedNarrow ∧
      Text.flushLeft raggedWide = Text.flushLeft raggedNarrow := by
  have houter : emitNode { indentSize := 3 } (-1) ragged = .ok raggedOuter := by
    rw [emitNode_eq_layout]
    rfl
  have hinner : emitNode { indentSize := 1 } 1 ragged = .ok raggedInner := by
    rw [emitNode_eq_layout]
    rfl
  have hwide : emitDocument { indentSize := 3 } (.document [ragged]) = .ok raggedWide := by
    rw [emitDocument_eq_map]
    rfl
  have hnarrow : emitDocument { indentSize := 1 } (.document [ragged]) = .ok raggedNarrow := by
    rw [emitDocument_eq_map]
    rfl
  have hflush := flushLeft_emitNode_and_emitDocument { indentSize := 3 } { indentSize := 1 }
  exact ⟨houter, hinner, hflush.1 ragged _ _ _ _ houter hinner, hwide, hnarrow,
    hflush.2 (.document [ragged]) _ _ hwide hnarrow⟩

end MarkupCode.Code
