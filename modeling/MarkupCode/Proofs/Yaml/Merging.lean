import MarkupCode.Proofs.Outcome
import MarkupCode.Yaml.Merge
import MarkupCode.Yaml.Unreadable

/-!
# Merging keeps the scalars

Merging rearranges the entries of mappings. Scalars keep their texts, collections stay collections, and
the only tag that changes is that of a default value, which becomes a text (`merge_ends`). A merge that
fails finds the document malformed.
-/

namespace MarkupCode.Yaml.Graph

open Outcome

structure SameScalars (g g' : Graph) : Prop where
  isScalar_iff : ∀ i s, g'.IsScalar i s ↔ g.IsScalar i s
  tag : ∀ i, (g'.node i).tag = (g.node i).tag ∨ (g.node i).tag = .value ∧ (g'.node i).tag = .str

namespace SameScalars

variable {g g' g'' : Graph}

theorem refl (g : Graph) : g.SameScalars g := ⟨fun _ _ => Iff.rfl, fun _ => .inl rfl⟩

theorem trans (h : g.SameScalars g') (h' : g'.SameScalars g'') : g.SameScalars g'' where
  isScalar_iff i s := (h'.isScalar_iff i s).trans (h.isScalar_iff i s)
  tag i := by
    rcases h.tag i with hi | ⟨hvalue, hstr⟩
    · rw [← hi]
      exact h'.tag i
    · rcases h'.tag i with hi' | ⟨hvalue', -⟩
      · exact .inr ⟨hvalue, hi'.trans hstr⟩
      · rw [hstr] at hvalue'
        cases hvalue'

end SameScalars

variable {g : Graph} {i : Nat}

theorem node_modify (g : Graph) (i j : Nat) (f : Node → Node) :
    Graph.node (Array.modify g i f) j = if i = j ∧ i < g.size then f (g.node j) else g.node j := by
  unfold node
  rw [Array.getElem?_modify]
  by_cases h : i = j
  · subst h
    by_cases hi : i < g.size
    · simp [hi]
    · simp [hi]
  · simp [h]

theorem sameScalars_setContent (hi : ∀ s, ¬g.IsScalar i s) {content : Content}
    (hcontent : ∀ s, content ≠ .scalar s) : g.SameScalars (g.setContent i content) where
  isScalar_iff j s := by
    unfold IsScalar setContent
    rw [node_modify]
    split
    · next h => exact ⟨fun hs => absurd hs (hcontent s), fun hs => absurd (h.1 ▸ hs) (hi s)⟩
    · rfl
  tag j := by
    unfold setContent
    rw [node_modify]
    split <;> exact .inl rfl

theorem sameScalars_setTag (hi : (g.node i).tag = .value) : g.SameScalars (g.setTag i .str) where
  isScalar_iff j s := by
    unfold IsScalar setTag
    rw [node_modify]
    split <;> rfl
  tag j := by
    unfold setTag
    rw [node_modify]
    split
    · next h => exact .inr ⟨h.1 ▸ hi, rfl⟩
    · exact .inl rfl

theorem not_isScalar_of_entry {place : Nat} {e : Nat × Nat} (h : (g.entries i)[place]? = some e) (s : Text) :
    ¬g.IsScalar i s := by
  intro hs
  unfold entries at h
  rw [hs] at h
  cases h

/-- Entries are brought into a mapping only, so no scalar is overwritten. -/
theorem mergeFrom_ends (fuel : Nat) (g : Graph) (id place : Nat) (merged : List (Nat × Nat))
    (hmerged : merged = [] ∨ ∀ s, ¬g.IsScalar id s) :
    Ends (· = Error.malformed) g.SameScalars (mergeFrom g id place merged fuel) := by
  induction fuel generalizing g id place merged with
  | zero => rfl
  | succ fuel ih =>
    unfold mergeFrom
    split
    · split
      · exact .refl g
      · next hne => exact sameScalars_setContent (hmerged.resolve_left hne) fun s h => nomatch h
    · next key value hentry =>
      have hid := not_isScalar_of_entry hentry
      split
      · have herased : g.SameScalars (g.setContent id (.mapping ((g.entries id).eraseIdx place))) :=
          sameScalars_setContent hid fun s h => nomatch h
        have hmore : ∀ (g' : Graph) (merged : List (Nat × Nat)), g.SameScalars g' →
            Ends (· = Error.malformed) g.SameScalars (mergeFrom g' id place merged fuel) := by
          intro g' merged h
          refine (ih g' id place merged (.inr fun s => ?_)).mono fun g'' h' => h.trans h'
          rw [h.isScalar_iff]
          exact hid s
        dsimp only
        split
        · exact (ih _ value 0 [] (.inl rfl)).bind fun g' h => hmore g' _ (herased.trans h)
        · refine (Ends.foldlM (Q := fun r => g.SameScalars r.1) ?_ herased _).bind fun r hr => hmore r.1 _ hr
          rintro ⟨g', found⟩ item h
          dsimp only
          split
          · exact (ih g' item 0 [] (.inl rfl)).bind fun g'' h' => h.trans h'
          · rfl
        · rfl
      · have hkey : g.SameScalars (if (g.node key).tag = .value then g.setTag key .str else g) := by
          split
          · next hvalue => exact sameScalars_setTag hvalue
          · exact .refl g
        refine (ih _ id (place + 1) merged (hmerged.imp_right fun h s => ?_)).mono fun g' h => hkey.trans h
        rw [hkey.isScalar_iff]
        exact h s

theorem merge_ends (g : Graph) (id : Nat) : Ends (· = Error.malformed) g.SameScalars (g.merge id) :=
  mergeFrom_ends _ g id 0 [] (.inl rfl)

end MarkupCode.Yaml.Graph
