/-!
# Outcomes

A computation that may fail either returns a value or the cause of its failure. A chain of two
computations succeeds exactly when the first does and the second succeeds on its value.
-/

namespace MarkupCode.Outcome

universe u v
variable {ε : Type u} {α β γ δ κ : Type v}

theorem ok_bind (a : α) (f : α → Except ε β) : Except.ok a >>= f = f a := rfl

theorem mapError_ok {ε' : Type u} (a : α) (f : ε → ε') : (Except.ok a).mapError f = .ok a := rfl

theorem of_mapError_ok {ε' : Type u} {x : Except ε α} {f : ε → ε'} {a : α} (h : x.mapError f = .ok a) :
    x = .ok a := by
  cases x with
  | error e => cases h
  | ok b => exact congrArg _ (Except.ok.inj h)

theorem exists_of_bind_ok {x : Except ε α} {f : α → Except ε β} {b : β}
    (h : x >>= f = .ok b) : ∃ a, x = .ok a ∧ f a = .ok b := by
  cases x with
  | error e => cases h
  | ok a => exact ⟨a, rfl, h⟩

theorem exists_of_map_ok {x : Except ε α} {f : α → β} {b : β} (h : x.map f = .ok b) :
    ∃ a, x = .ok a ∧ f a = b := by
  cases x with
  | error e => cases h
  | ok a => exact ⟨a, rfl, Except.ok.inj h⟩

theorem bind_eq_ok_iff {x : Except ε α} {f : α → Except ε β} {b : β} :
    x >>= f = .ok b ↔ ∃ a, x = .ok a ∧ f a = .ok b :=
  ⟨exists_of_bind_ok, fun ⟨_, hx, hf⟩ => hx ▸ hf⟩

/-- Two chains agree when their first parts agree in some view of their values and their second parts
agree on values with the same view. -/
theorem map_bind_congr {x : Except ε α} {y : Except ε β} {g : α → γ} {h : β → γ}
    (hxy : x.map g = y.map h) {f : α → Except ε δ} {k : β → Except ε κ} {c : δ → κ}
    (hfk : ∀ a b, g a = h b → (f a).map c = k b) : (x >>= f).map c = y >>= k := by
  cases x with
  | error e =>
    cases y with
    | error e' => cases hxy; rfl
    | ok b => cases hxy
  | ok a =>
    cases y with
    | error e' => cases hxy
    | ok b => exact hfk a b (Except.ok.inj hxy)

end MarkupCode.Outcome
