import MarkupCode.Code.Emit
import MarkupCode.Html.Copy
import MarkupCode.Html.OpenElements
import MarkupCode.Proofs.Html.Tokens

/-!
# What is built from tokens

`Tree.Sound` says of a page that no void element has contents and that a script holds strings with
content only. While tokens come in their order, a page under construction stays sound: an empty element
closes as it opens, and a script is open only as the innermost element while its text is read.
-/

namespace MarkupCode.Html

def Tree.IsText : Tree → Prop
  | .string sort _ => sort.isInert = false
  | _ => False

inductive Tree.Sound : Tree → Prop
  | tag {name : Text} {contents : List Tree} (attrs : TagAttributes) :
    (Code.isVoid name = true → contents = []) →
    (Node.elementKind name = .script → ∀ t ∈ contents, t.IsText) →
    (∀ t ∈ contents, t.Sound) → Sound (.tag name attrs contents)
  | string (sort : StringSort) (s : Text) : Sound (.string sort s)
  | mark : Sound .mark

/-! ### Names -/

theorem isVoid_eq_false {name : Text} (hl : Text.lower name = name) (h : name ∉ emptyElements) :
    Code.isVoid name = false := by
  have hsub : ∀ n ∈ Code.voidElements, n ∈ emptyElements := by decide
  rw [Code.isVoid, hl]
  apply decide_eq_false
  intro hv
  exact h (hsub name hv)

theorem elementKind_ne_script {name : Text} (hl : Text.lower name = name)
    (h : name ∉ verbatimElements) : Node.elementKind name ≠ .script := by
  rw [Node.elementKind, hl, if_neg]
  · decide
  · rintro rfl
    exact h (by decide)

theorem notMem_emptyElements {name : Text} (h : name ∈ verbatimElements) : name ∉ emptyElements := by
  have hdisjoint : ∀ n ∈ verbatimElements, n ∉ emptyElements := by decide
  exact hdisjoint name h

/-! ### Builders -/

structure OpenElement.Sound (e : OpenElement) : Prop where
  notVoid : Code.isVoid e.name = false
  texts : Node.elementKind e.name = .script → ∀ t ∈ e.contents, t.IsText
  contents : ∀ t ∈ e.contents, t.Sound

theorem OpenElement.Sound.toTree {e : OpenElement} (h : e.Sound) : e.toTree.Sound := by
  apply Tree.Sound.tag e.attrs
  · intro hv
    rw [h.notVoid] at hv
    cases hv
  · intro hk t ht
    exact h.texts hk t (List.mem_reverse.1 ht)
  · intro t ht
    exact h.contents t (List.mem_reverse.1 ht)

/-- A builder with a verbatim element open, or none: only the innermost element may be a script, and
only while its text is read. -/
structure Builder.Sound (v : Option Text) (b : Builder) : Prop where
  contents : ∀ t ∈ b.contents, t.Sound
  elements : ∀ e ∈ b.elements, e.Sound
  outer : ∀ e ∈ b.elements.tail, Node.elementKind e.name ≠ .script
  inner : v = none → ∀ e ∈ b.elements, Node.elementKind e.name ≠ .script
  verbatim : ∀ n, v = some n → n ∈ verbatimElements ∧ ∃ e es, b.elements = e :: es ∧ e.name = n
  awaited : ∀ n ∈ b.awaited, n ∈ emptyElements

namespace Builder

variable {v : Option Text} {b : Builder}

theorem sound_empty : Sound none {} := by
  constructor <;> simp

/-- Adding a tree to the innermost element, or to the page when none is open. A script takes texts. -/
theorem Sound.add {t : Tree} (hb : Sound v b) (ht : t.Sound) (hv : v = none ∨ t.IsText) :
    Sound v (b.add t) := by
  unfold Builder.add
  split
  · next hnil =>
    exact { hb with contents := List.forall_mem_cons.2 ⟨ht, hb.contents⟩ }
  · next e es hcons =>
    have helements := hb.elements
    have houter := hb.outer
    have hinner := hb.inner
    have hverbatim := hb.verbatim
    rw [hcons] at helements houter hinner hverbatim
    obtain ⟨he, hes⟩ := List.forall_mem_cons.1 helements
    refine ⟨hb.contents, List.forall_mem_cons.2 ⟨⟨he.notVoid, ?_, ?_⟩, hes⟩, houter, ?_, ?_, hb.awaited⟩
    · intro hk
      refine List.forall_mem_cons.2 ⟨?_, he.texts hk⟩
      rcases hv with hv | hv
      · exact absurd hk (hinner hv e List.mem_cons_self)
      · exact hv
    · exact List.forall_mem_cons.2 ⟨ht, he.contents⟩
    · intro hv
      exact List.forall_mem_cons.2 (List.forall_mem_cons.1 (hinner hv))
    · intro n hn
      obtain ⟨hn, d, ds, hd, hname⟩ := hverbatim n hn
      obtain ⟨rfl, rfl⟩ := List.cons.inj hd
      exact ⟨hn, _, _, rfl, hname⟩

theorem Sound.flush {sort : StringSort} (hb : Sound v b) (hv : v = none ∨ sort.isInert = false) :
    Sound v (b.flush sort) := by
  unfold Builder.flush
  split
  · exact hb
  · exact Sound.add ⟨hb.contents, hb.elements, hb.outer, hb.inner, hb.verbatim, hb.awaited⟩
      (.string _ _) hv

/-- Closing the innermost element leaves no script open. -/
theorem Sound.pop {e : OpenElement} {es : List OpenElement} (hb : Sound v b)
    (he : b.elements = e :: es) : Sound none b.pop := by
  have helements := hb.elements
  have houter := hb.outer
  rw [he] at helements houter
  obtain ⟨htop, hes⟩ := List.forall_mem_cons.1 helements
  have hbelow : Sound none { b with elements := es } :=
    ⟨hb.contents, hes, fun d hd => houter d (List.mem_of_mem_tail hd), fun _ => houter,
      fun _ hn => (by cases hn), hb.awaited⟩
  unfold Builder.pop
  rw [he]
  exact hbelow.add htop.toTree (.inl rfl)

theorem pop_of_nil (he : b.elements = []) : b.pop = b := by
  unfold Builder.pop
  rw [he]

theorem Sound.repeat_pop (hb : Sound none b) (k : Nat) :
    Sound none (Nat.repeat Builder.pop k b) := by
  induction k with
  | zero => exact hb
  | succ k ih =>
    change Sound none (Builder.pop (Nat.repeat Builder.pop k b))
    cases he : (Nat.repeat Builder.pop k b).elements with
    | nil =>
      rw [pop_of_nil he]
      exact ih
    | cons e es => exact ih.pop he

theorem repeat_pop_succ (k : Nat) (b : Builder) :
    Nat.repeat Builder.pop (k + 1) b = Nat.repeat Builder.pop k b.pop := by
  induction k with
  | zero => rfl
  | succ k ih => exact congrArg Builder.pop ih

/-- An end tag closes the verbatim element that is open, or any elements outside one. -/
theorem Sound.close {name : Text} (hb : Sound v b) (hv : v = none ∨ v = some name) :
    Sound none (b.close name) := by
  unfold Builder.close
  cases hi : b.elements.findIdx? (·.name = name) with
  | none =>
    rcases hv with rfl | rfl
    · exact hb
    · obtain ⟨-, e, es, he, hname⟩ := hb.verbatim name rfl
      simp [he, List.findIdx?_cons, hname] at hi
  | some i =>
    cases he : b.elements with
    | nil => simp [he] at hi
    | cons e es =>
      change Sound none (Nat.repeat Builder.pop (i + 1) b)
      rw [repeat_pop_succ]
      exact (hb.pop he).repeat_pop i

/-- An element that closes as it opens has no contents. -/
theorem close_push (b : Builder) (name : Text) (attrs : List (Text × Text)) :
    (b.push name attrs).close name =
      b.add (.tag name ((Entries.ofPairs attrs).map fun a => (a.1, .text a.2)) []) := by
  have hi : (b.push name attrs).elements.findIdx? (·.name = name) = some 0 := by
    simp [Builder.push, List.findIdx?_cons]
  unfold Builder.close
  rw [hi]
  rfl

theorem sound_tag_nil (name : Text) (attrs : TagAttributes) : Tree.Sound (.tag name attrs []) :=
  .tag attrs (fun _ => rfl) (by simp) (by simp)

theorem Sound.push {name : Text} (hb : Sound none b) (hl : Text.lower name = name)
    (hn : name ∉ emptyElements) (attrs : List (Text × Text)) :
    Sound (opened name) (b.push name attrs) := by
  refine ⟨hb.contents, ?_, hb.inner rfl, ?_, ?_, hb.awaited⟩
  · exact List.forall_mem_cons.2 ⟨⟨isVoid_eq_false hl hn, by simp, by simp⟩, hb.elements⟩
  · intro ho
    have hverbatim : name ∉ verbatimElements := by
      intro h
      simp [opened, h] at ho
    exact List.forall_mem_cons.2 ⟨elementKind_ne_script hl hverbatim, hb.inner rfl⟩
  · intro n ho
    unfold opened at ho
    split at ho
    · next h =>
      cases ho
      exact ⟨h, _, _, rfl, rfl⟩
    · cases ho

/-- Tokens that come in order keep what is built sound. -/
theorem Sound.foldl_take {w : Option Text} {ts : List Token} (ht : Leads v ts w) (hb : Sound v b) :
    Sound w (ts.foldl Builder.take b) := by
  induction ht generalizing b with
  | nil v => exact hb
  | text s _ ih =>
    exact ih ⟨hb.contents, hb.elements, hb.outer, hb.inner, hb.verbatim, hb.awaited⟩
  | @startTag name w ts attrs hl _ ih =>
    apply ih
    have hf : Sound none (b.flush .plain) := hb.flush (.inl rfl)
    unfold Builder.take
    dsimp only
    split
    · next hempty =>
      have hclosed : Sound none (((b.flush .plain).push name attrs).close name) := by
        rw [close_push]
        exact hf.add (sound_tag_nil name _) (.inl rfl)
      have ho : opened name = none := if_neg fun hv => notMem_emptyElements hv hempty
      rw [ho]
      exact { hclosed with awaited := List.forall_mem_cons.2 ⟨hempty, hb.awaited⟩ }
    · next hn => exact hf.push hl hn attrs
  | @emptyTag name w ts attrs hl _ ih =>
    apply ih
    change Sound none (((b.flush .plain).push name attrs).close name)
    rw [close_push]
    exact (hb.flush (.inl rfl)).add (sound_tag_nil name _) (.inl rfl)
  | endTag hv _ ih =>
    apply ih
    unfold Builder.take
    dsimp only
    split
    · next hn =>
      -- the end tag of a verbatim element is never awaited
      rcases hv with rfl | rfl
      · exact { hb with awaited := fun n hm => hb.awaited n (List.mem_of_mem_erase hm) }
      · exact absurd (hb.awaited _ hn) (notMem_emptyElements (hb.verbatim _ rfl).1)
    · exact (hb.flush (.inr rfl)).close hv
  | inert sort s _ ih =>
    apply ih
    have hf : Sound none (b.flush .plain) := hb.flush (.inl rfl)
    have hp : Sound none { b.flush .plain with pending := [s] } :=
      ⟨hf.contents, hf.elements, hf.outer, hf.inner, hf.verbatim, hf.awaited⟩
    exact hp.flush (.inl rfl)

end Builder

/-- The trees of a page are sound, whatever stands in it. -/
theorem sound_treesOf {ts : List Token} {w : Option Text} (h : Leads none ts w) :
    ∀ t ∈ treesOf ts, t.Sound := by
  have hb := Builder.Sound.foldl_take h Builder.sound_empty
  have hf : Builder.Sound w ((ts.foldl Builder.take {}).flush .plain) := hb.flush (.inr rfl)
  intro t ht
  change t ∈ (Nat.repeat Builder.pop _ _).contents.reverse at ht
  cases he : ((ts.foldl Builder.take {}).flush .plain).elements with
  | nil =>
    rw [he] at ht
    exact hf.contents t (List.mem_reverse.1 ht)
  | cons e es =>
    rw [he, List.length_cons, Builder.repeat_pop_succ] at ht
    exact ((hf.pop he).repeat_pop es.length).contents t (List.mem_reverse.1 ht)

end MarkupCode.Html
