/-!
# Entries in order

A list of named entries keeps the order in which the names first appeared. Setting a name again
replaces its value and leaves it in place, so names stay distinct.
-/

namespace MarkupCode.Entries

universe u v
variable {α : Type u} {β : Type v} [BEq α]

/-- Sets one name: in place when the name is there, at the end otherwise. -/
def set (entries : List (α × β)) (name : α) (value : β) : List (α × β) :=
  match entries with
  | [] => [(name, value)]
  | (n, v) :: rest => if n == name then (n, value) :: rest else (n, v) :: set rest name value

/-- The pairs set one after the other: first positions, last values. -/
def ofPairs (pairs : List (α × β)) : List (α × β) :=
  pairs.foldl (fun entries p => set entries p.1 p.2) []

theorem lookup_set [LawfulBEq α] (entries : List (α × β)) (name : α) (value : β) (n : α) :
    (set entries name value).lookup n = if n == name then some value else entries.lookup n := by
  induction entries with
  | nil => cases h : n == name <;> simp [set, List.lookup_cons, h]
  | cons p rest ih =>
    obtain ⟨m, v⟩ := p
    unfold set
    by_cases hm : m == name
    · have := LawfulBEq.eq_of_beq hm
      subst this
      cases h : n == m <;> simp [List.lookup_cons, h]
    · simp only [hm, Bool.false_eq_true, if_false, List.lookup_cons, ih]
      cases hb : n == m with
      | false => rfl
      | true =>
        have := LawfulBEq.eq_of_beq hb
        subst this
        simp [hm]

theorem mem_set {entries : List (α × β)} {name : α} {value : β} {e : α × β}
    (h : e ∈ set entries name value) : (∃ e' ∈ entries, e'.1 = e.1) ∨ e.1 = name := by
  induction entries with
  | nil => exact .inr (by rw [List.mem_singleton.1 h])
  | cons p rest ih =>
    unfold set at h
    split at h
    · rcases List.mem_cons.1 h with rfl | h
      · exact .inl ⟨p, List.mem_cons_self, rfl⟩
      · exact .inl ⟨e, List.mem_cons_of_mem _ h, rfl⟩
    · rcases List.mem_cons.1 h with rfl | h
      · exact .inl ⟨_, List.mem_cons_self, rfl⟩
      · exact (ih h).imp_left fun ⟨e', he', heq⟩ => ⟨e', List.mem_cons_of_mem _ he', heq⟩

abbrev Distinct (entries : List (α × β)) : Prop := entries.Pairwise fun e e' => (e.1 == e'.1) = false

theorem distinct_set {entries : List (α × β)} (name : α) (value : β) (h : Distinct entries) :
    Distinct (set entries name value) := by
  induction entries with
  | nil => exact List.pairwise_singleton ..
  | cons p rest ih =>
    obtain ⟨hp, hrest⟩ := List.pairwise_cons.1 h
    unfold set
    split
    · exact List.pairwise_cons.2 ⟨hp, hrest⟩
    · next hne =>
      refine List.pairwise_cons.2 ⟨fun e he => ?_, ih hrest⟩
      rcases mem_set he with ⟨e', he', heq⟩ | heq
      · exact heq ▸ hp e' he'
      · rw [heq]
        exact Bool.eq_false_iff.2 hne

theorem distinct_ofPairs (pairs : List (α × β)) : Distinct (ofPairs pairs) := by
  have hfoldl : ∀ entries : List (α × β), Distinct entries →
      Distinct (pairs.foldl (fun entries p => set entries p.1 p.2) entries) := by
    induction pairs with
    | nil => exact fun _ h => h
    | cons p ps ih => exact fun entries h => ih _ (distinct_set p.1 p.2 h)
  exact hfoldl [] List.Pairwise.nil

end MarkupCode.Entries
