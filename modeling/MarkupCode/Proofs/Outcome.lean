import MarkupCode.Outcome

/-!
# What a computation may end with

`Ends P Q` says of an outcome that it is a fault of the kind `P` or a value of the kind `Q`, and
`Keeps I P Q` of a computation over a state that it ends so from every state with the property `I`, and
leaves a state with that property. Both pass through chains and branches, so a computation is judged by
its steps.
-/

namespace MarkupCode.Outcome

universe u v
variable {ε : Type u} {σ α β : Type v} {P : ε → Prop} {I : σ → Prop} {Q : α → Prop} {R : β → Prop}

def Ends (P : ε → Prop) (Q : α → Prop) : Except ε α → Prop
  | .ok a => Q a
  | .error e => P e

namespace Ends

theorem pure {a : α} (ha : Q a) : Ends P Q (Pure.pure a : Except ε α) := ha

theorem bind {x : Except ε α} {f : α → Except ε β} (hx : Ends P Q x) (hf : ∀ a, Q a → Ends P R (f a)) :
    Ends P R (x >>= f) := by
  cases x with
  | error e => exact hx
  | ok a => exact hf a hx

theorem mono {x : Except ε α} {Q' : α → Prop} (hx : Ends P Q x) (h : ∀ a, Q a → Q' a) : Ends P Q' x := by
  cases x with
  | error e => exact hx
  | ok a => exact h a hx

theorem ite {c : Prop} [Decidable c] {x y : Except ε α} (hx : Ends P Q x) (hy : Ends P Q y) :
    Ends P Q (if c then x else y) := by
  split
  · exact hx
  · exact hy

/-- A failure in one case, and what follows in the other. -/
theorem reject {c : Prop} [Decidable c] {e : ε} {f : PUnit → Except ε β} (he : c → P e)
    (hf : ¬c → Ends P R (f ⟨⟩)) : Ends P R (if c then throw e >>= f else f ⟨⟩) := by
  split
  · next hc => exact he hc
  · next hc => exact hf hc

theorem foldlM {f : α → β → Except ε α} (hf : ∀ a b, Q a → Ends P Q (f a b)) {a : α} (ha : Q a)
    (bs : List β) : Ends P Q (bs.foldlM f a) := by
  induction bs generalizing a with
  | nil => exact ha
  | cons b bs ih =>
    rw [List.foldlM_cons]
    exact (hf a b ha).bind fun a' ha' => ih ha'

end Ends

def Keeps (I : σ → Prop) (P : ε → Prop) (Q : α → Prop) (m : StateT σ (Except ε) α) : Prop :=
  ∀ s, I s → Ends P (fun r => Q r.1 ∧ I r.2) (m.run s)

namespace Keeps

theorem pure {a : α} (ha : Q a) : Keeps I P Q (Pure.pure a : StateT σ (Except ε) α) :=
  fun _ hs => ⟨ha, hs⟩

theorem throw {e : ε} (he : P e) : Keeps I P Q (MonadExcept.throw e : StateT σ (Except ε) α) :=
  fun _ _ => he

theorem bind_of {x : StateT σ (Except ε) α} {f : α → StateT σ (Except ε) β} (hx : Keeps I P Q x)
    (hf : ∀ a, Q a → Keeps I P R (f a)) : Keeps I P R (x >>= f) :=
  fun s hs => (hx s hs).bind fun r hr => hf r.1 hr.1 r.2 hr.2

theorem bind {x : StateT σ (Except ε) α} {f : α → StateT σ (Except ε) β} (hx : Keeps I P Q x)
    (hf : ∀ a, Keeps I P R (f a)) : Keeps I P R (x >>= f) :=
  hx.bind_of fun a _ => hf a

/-- What is looked up in the state is a state with the property. -/
theorem get_bind {f : σ → StateT σ (Except ε) α} (hf : ∀ s, I s → Keeps I P Q (f s)) :
    Keeps I P Q (get >>= f) :=
  fun s hs => hf s hs s hs

theorem set {s : σ} (hs : I s) :
    Keeps I P (fun _ => True) (set s : StateT σ (Except ε) PUnit) :=
  fun _ _ => ⟨trivial, hs⟩

theorem modify {f : σ → σ} (hf : ∀ s, I s → I (f s)) :
    Keeps I P (fun _ => True) (modify f : StateT σ (Except ε) PUnit) :=
  fun s hs => ⟨trivial, hf s hs⟩

theorem modifyGet {f : σ → α × σ} (hf : ∀ s, I s → Q (f s).1 ∧ I (f s).2) :
    Keeps I P Q (modifyGet f : StateT σ (Except ε) α) :=
  fun s hs => hf s hs

theorem ite {c : Prop} [Decidable c] {x y : StateT σ (Except ε) α} (hx : Keeps I P Q x)
    (hy : Keeps I P Q y) : Keeps I P Q (if c then x else y) := by
  split
  · exact hx
  · exact hy

/-- A step that is made in one case only, before what follows in both. -/
theorem when {c : Prop} [Decidable c] {x : StateT σ (Except ε) PUnit} {f : PUnit → StateT σ (Except ε) β}
    {T : PUnit → Prop} (hx : Keeps I P T x) (hf : ∀ a, Keeps I P R (f a)) :
    Keeps I P R (if c then x >>= f else f ⟨⟩) :=
  ite (hx.bind hf) (hf ⟨⟩)

/-- A failure in one case, and what follows in the other. -/
theorem reject {c : Prop} [Decidable c] {e : ε} {f : PUnit → StateT σ (Except ε) β} (he : c → P e)
    (hf : ¬c → Keeps I P R (f ⟨⟩)) : Keeps I P R (if c then MonadExcept.throw e >>= f else f ⟨⟩) := by
  split
  · next hc => exact fun _ _ => he hc
  · next hc => exact hf hc

theorem mono {m : StateT σ (Except ε) α} {Q' : α → Prop} (hm : Keeps I P Q m) (h : ∀ a, Q a → Q' a) :
    Keeps I P Q' m :=
  fun s hs => (hm s hs).mono fun r hr => ⟨h r.1 hr.1, hr.2⟩

theorem mapM {γ : Type v} {f : γ → StateT σ (Except ε) α} (hf : ∀ c, Keeps I P Q (f c)) (cs : List γ) :
    Keeps I P (fun _ => True) (cs.mapM f) := by
  induction cs with
  | nil => exact .pure trivial
  | cons c cs ih =>
    rw [List.mapM_cons]
    exact (hf c).bind fun _ => ih.bind fun _ => .pure trivial

theorem forM {γ : Type v} {f : γ → StateT σ (Except ε) PUnit} {T : PUnit → Prop}
    (hf : ∀ c, Keeps I P T (f c)) (cs : List γ) : Keeps I P (fun _ => True) (cs.forM f) := by
  induction cs with
  | nil => exact .pure trivial
  | cons c cs ih => exact (hf c).bind fun _ => ih

end Keeps
end MarkupCode.Outcome
