import MarkupCode.Proofs.Html.OpenElements
import MarkupCode.Proofs.Html.WrittenTokens

/-!
# Trees of a written tree

`readBack` is what the tokens of a plain tree are built into: the tree itself, but an empty text leaves
nothing and a text of white space alone shrinks outside the elements that preserve it. Taking in the
tokens of a row adds its trees to the innermost open element and opens or closes nothing else; of the
end tags that are still awaited all belong to empty elements, so none of them meets a written end tag.
-/

namespace MarkupCode.Html

open Code

mutual
/-- The trees that a node is read back as, inside an element that preserves white space or not. -/
def readBack (keep : Bool) : Node → List Tree
  | ⟨kind, name, attrs, children, text⟩ =>
    match kind with
    | .text => if text = [] then [] else [.string .plain (if keep then text else shrink text)]
    | .element =>
      [.tag name (attrs.map fun a => (a.1, .text a.2))
        (readBackAll (name ∈ preservingElements || keep) children)]
    | _ => readBackAll keep children

def readBackAll (keep : Bool) : List Node → List Tree
  | [] => []
  | c :: cs => readBack keep c ++ readBackAll keep cs
end

namespace Builder

def addAll (b : Builder) (ts : List Tree) : Builder := ts.foldl add b

theorem addAll_append (b : Builder) (ts us : List Tree) :
    b.addAll (ts ++ us) = (b.addAll ts).addAll us :=
  List.foldl_append

theorem add_awaited (b : Builder) (t : Tree) (aw : List Text) :
    { b with awaited := aw }.add t = { b.add t with awaited := aw } := by
  unfold add
  dsimp only
  split <;> rfl

theorem addAll_awaited (b : Builder) (ts : List Tree) (aw : List Text) :
    { b with awaited := aw }.addAll ts = { b.addAll ts with awaited := aw } := by
  induction ts generalizing b with
  | nil => rfl
  | cons t ts ih =>
    change ({ b with awaited := aw }.add t).addAll ts = { (b.add t).addAll ts with awaited := aw }
    rw [add_awaited, ih]

theorem addAll_of_open {b : Builder} {e : OpenElement} {es : List OpenElement}
    (he : b.elements = e :: es) (ts : List Tree) :
    b.addAll ts = { b with elements := { e with contents := ts.reverse ++ e.contents } :: es } := by
  induction ts generalizing b e with
  | nil =>
    rw [List.reverse_nil, List.nil_append, ← he]
    rfl
  | cons t ts ih =>
    have hadd : b.add t = { b with elements := { e with contents := t :: e.contents } :: es } := by
      unfold add
      rw [he]
    change (b.add t).addAll ts = _
    rw [hadd, ih rfl, List.reverse_cons, List.append_assoc]
    rfl

theorem addAll_of_closed {b : Builder} (he : b.elements = []) (ts : List Tree) :
    b.addAll ts = { b with contents := ts.reverse ++ b.contents } := by
  induction ts generalizing b with
  | nil => rfl
  | cons t ts ih =>
    have hadd : b.add t = { b with contents := t :: b.contents } := by
      unfold add
      rw [he]
    have hclosed : (b.add t).elements = [] := by
      rw [hadd]
      exact he
    change (b.add t).addAll ts = _
    rw [ih hclosed, hadd, List.reverse_cons, List.append_assoc]
    rfl

theorem preserves_add (b : Builder) (t : Tree) : (b.add t).preserves = b.preserves := by
  unfold add
  split
  · rfl
  · next e es he =>
    unfold preserves
    rw [he]
    rfl

theorem preserves_addAll (b : Builder) (ts : List Tree) : (b.addAll ts).preserves = b.preserves := by
  induction ts generalizing b with
  | nil => rfl
  | cons t ts ih => exact (ih (b.add t)).trans (preserves_add b t)

theorem pending_add (b : Builder) (t : Tree) : (b.add t).pending = b.pending := by
  unfold add
  split <;> rfl

theorem pending_addAll (b : Builder) (ts : List Tree) : (b.addAll ts).pending = b.pending := by
  induction ts generalizing b with
  | nil => rfl
  | cons t ts ih => exact (ih (b.add t)).trans (pending_add b t)

theorem awaited_add (b : Builder) (t : Tree) : (b.add t).awaited = b.awaited := by
  unfold add
  split <;> rfl

theorem flush_of_nil {b : Builder} (h : b.pending = []) (sort : StringSort) : b.flush sort = b :=
  if_pos h

theorem pending_flush (b : Builder) (sort : StringSort) : (b.flush sort).pending = [] := by
  unfold flush
  split
  · next h => exact h
  · exact pending_add _ _

theorem flush_flush (b : Builder) (sort : StringSort) :
    (b.flush sort).flush sort = b.flush sort :=
  flush_of_nil (pending_flush b sort) sort

theorem awaited_flush (b : Builder) (sort : StringSort) : (b.flush sort).awaited = b.awaited := by
  unfold flush
  split
  · rfl
  · exact awaited_add _ _

/-- A builder without pending text that has taken in the tokens of some trees. -/
structure Grown (b : Builder) (ts : List Tree) (b' : Builder) : Prop where
  eq : b' = { b.addAll ts with awaited := b'.awaited }
  pending : b'.pending = []
  awaited : ∀ n ∈ b'.awaited, n ∈ emptyElements

theorem grown_addAll {b : Builder} (hb : b.pending = []) (ts : List Tree) {aw : List Text}
    (haw : ∀ n ∈ aw, n ∈ emptyElements) :
    Grown b ts { b.addAll ts with awaited := aw } :=
  ⟨rfl, (pending_addAll b ts).trans hb, haw⟩

theorem Grown.preserves {b b' : Builder} {ts : List Tree} (h : Grown b ts b') :
    b'.preserves = b.preserves := by
  rw [h.eq]
  exact preserves_addAll b ts

theorem Grown.trans {b b' b'' : Builder} {ts us : List Tree} (h : Grown b ts b')
    (h' : Grown b' us b'') : Grown b (ts ++ us) b'' := by
  refine ⟨?_, h'.pending, h'.awaited⟩
  have he := h'.eq
  rw [h.eq, addAll_awaited] at he
  rw [addAll_append]
  exact he

/-! ### Texts -/

theorem exists_pieces (run s : Text) : ∃ pieces : List Text,
    tokensOfText run s = pieces.map Token.text ∧ pieces.flatten = run ++ s ∧ [] ∉ pieces := by
  have hrun (run : Text) : ∃ pieces : List Text,
      textTokens run = pieces.map Token.text ∧ pieces.flatten = run ∧ [] ∉ pieces := by
    by_cases h : run = []
    · exact ⟨[], by simp [textTokens, h], by simp [h], by simp⟩
    · exact ⟨[run], by simp [textTokens, h], by simp, by simpa using h⟩
  induction s generalizing run with
  | nil =>
    obtain ⟨pieces, htokens, hflat, hne⟩ := hrun run
    exact ⟨pieces, htokens, by rw [hflat, List.append_nil], hne⟩
  | cons c s ih =>
    rw [tokensOfText]
    by_cases hc : isReferred c = true
    · obtain ⟨pieces, htokens, hflat, hne⟩ := hrun run
      obtain ⟨more, hmore, hflat', hne'⟩ := ih []
      refine ⟨pieces ++ [c] :: more, ?_, ?_, ?_⟩
      · rw [if_pos hc, htokens, hmore, List.map_append, List.map_cons]
      · rw [List.flatten_append, hflat, List.flatten_cons, hflat', List.nil_append,
          List.singleton_append]
      · simp [hne, hne']
    · obtain ⟨pieces, htokens, hflat, hne⟩ := ih (run ++ [c])
      refine ⟨pieces, ?_, ?_, hne⟩
      · rw [if_neg hc, htokens]
      · rw [hflat, List.append_assoc, List.singleton_append]

theorem foldl_take_texts (pieces : List Text) (b : Builder) :
    (pieces.map Token.text).foldl take b = { b with pending := pieces.reverse ++ b.pending } := by
  induction pieces generalizing b with
  | nil => rfl
  | cons p pieces ih =>
    change (pieces.map Token.text).foldl take { b with pending := p :: b.pending } = _
    rw [ih, List.reverse_cons, List.append_assoc]
    rfl

theorem grown_text {b : Builder} (hb : b.pending = []) (ha : ∀ n ∈ b.awaited, n ∈ emptyElements)
    (n : Node) (hk : n.kind = .text) :
    Grown b (readBack b.preserves n) (((tokensOf n).foldl take b).flush .plain) := by
  obtain ⟨kind, name, attrs, children, text⟩ := n
  cases hk
  obtain ⟨pieces, htokens, hflat, hne⟩ := exists_pieces [] text
  rw [List.nil_append] at hflat
  rw [readBack, tokensOf, htokens, foldl_take_texts, hb, List.append_nil]
  by_cases hp : pieces = []
  · rw [hp, List.flatten_nil] at hflat
    rw [hp, if_pos hflat.symm, List.reverse_nil, ← hb, flush_of_nil hb]
    exact ⟨rfl, hb, ha⟩
  · have htext : text ≠ [] := by
      intro he
      rw [he, List.flatten_eq_nil_iff] at hflat
      obtain ⟨p, rest, rfl⟩ := List.exists_cons_of_ne_nil hp
      exact hne (hflat p List.mem_cons_self ▸ List.mem_cons_self)
    have hflush : ({ b with pending := pieces.reverse } : Builder).flush .plain =
        b.add (.string .plain (if b.preserves then text else shrink text)) := by
      rw [flush, if_neg (by simpa using hp), List.reverse_reverse, hflat, ← hb]
      rfl
    rw [if_neg htext, hflush]
    exact ⟨rfl, (pending_add b _).trans hb, (awaited_add b _).symm ▸ ha⟩

/-! ### Elements and rows -/

/-- Pairs with distinct names are taken as they are. -/
theorem ofPairs_of_nodup {attrs : Attributes} (h : (attrs.map Prod.fst).Nodup) :
    Entries.ofPairs attrs = attrs := by
  have hset {entries : Attributes} {name value : Text} (hn : name ∉ entries.map Prod.fst) :
      Entries.set entries name value = entries ++ [(name, value)] := by
    induction entries with
    | nil => rfl
    | cons e entries ih =>
      rw [List.map_cons, List.mem_cons, not_or] at hn
      have hne : (e.1 == name) = false := beq_eq_false_iff_ne.2 (Ne.symm hn.1)
      rw [Entries.set, hne, ih hn.2]
      rfl
  have hfold (entries : Attributes) (hd : ((entries ++ attrs).map Prod.fst).Nodup) :
      attrs.foldl (fun entries p => Entries.set entries p.1 p.2) entries = entries ++ attrs := by
    clear h
    induction attrs generalizing entries with
    | nil => exact (List.append_nil _).symm
    | cons a attrs ih =>
      have hnot : a.1 ∉ entries.map Prod.fst := by
        rw [List.map_append, List.map_cons] at hd
        intro hm
        exact (List.nodup_append.1 hd).2.2 a.1 hm a.1 List.mem_cons_self rfl
      rw [List.foldl_cons, hset hnot, ih, List.append_assoc]
      · rfl
      · rw [List.append_assoc]
        exact hd
  exact hfold [] h

theorem push_eq {attrs : Attributes} (h : (attrs.map Prod.fst).Nodup) (b : Builder) (name : Text) :
    b.push name attrs =
      { b with elements := ⟨name, attrs.map fun a => (a.1, .text a.2), []⟩ :: b.elements } := by
  rw [push, ofPairs_of_nodup h]

theorem close_of_open {b : Builder} {name : Text} {attrs : TagAttributes} {contents : List Tree}
    {es : List OpenElement} (he : b.elements = ⟨name, attrs, contents⟩ :: es) :
    b.close name = { b with elements := es }.add (.tag name attrs contents.reverse) := by
  have hi : b.elements.findIdx? (·.name = name) = some 0 := by
    simp [he, List.findIdx?_cons]
  unfold close
  rw [hi]
  change b.pop = _
  unfold pop
  rw [he]
  rfl

/-- An element with its children's tokens between its tags grows by its tree. -/
theorem grown_element (text : Text) {name : Text} {attrs : Attributes} {children : List Node}
    (hplain : PlainElement name attrs children)
    (ih : ∀ b : Builder, b.pending = [] → (∀ n ∈ b.awaited, n ∈ emptyElements) →
      Grown b (readBackAll b.preserves children)
        (((tokensOfAll children).foldl take b).flush .plain))
    {b : Builder} (hb : b.pending = []) (ha : ∀ n ∈ b.awaited, n ∈ emptyElements) :
    Grown b (readBack b.preserves ⟨.element, name, attrs, children, text⟩)
      ((tokensOf ⟨.element, name, attrs, children, text⟩).foldl take b) := by
  rw [readBack, tokensOf, List.foldl_cons, take, flush_of_nil hb]
  dsimp only
  by_cases hv : isVoid name = true
  · have hempty : name ∈ emptyElements := by
      apply Decidable.byContradiction
      intro hn
      rw [isVoid_eq_false hplain.plainName.lower hn] at hv
      cases hv
    rw [if_pos hv, if_pos hempty, close_push, ofPairs_of_nodup hplain.nodup, hplain.void hv]
    exact grown_addAll hb [_] (List.forall_mem_cons.2 ⟨hempty, ha⟩)
  · have hempty : name ∉ emptyElements := hplain.plainName.void.resolve_left hv
    rw [if_neg hv, if_neg hempty, List.foldl_append, List.foldl_cons, List.foldl_nil]
    have hopen := push_eq hplain.nodup b name
    have hrow := ih (b.push name attrs) hb ha
    have hkeep : (b.push name attrs).preserves =
        (decide (name ∈ preservingElements) || b.preserves) := rfl
    rw [hkeep] at hrow
    -- only empty elements are awaited, so the end tag closes the element
    have hnot : name ∉ ((tokensOfAll children).foldl take (b.push name attrs)).awaited := by
      rw [← awaited_flush _ .plain]
      intro hm
      exact hempty (hrow.awaited name hm)
    have heq := hrow.eq
    rw [addAll_of_open (congrArg elements hopen)] at heq
    dsimp only at heq
    rw [List.append_nil] at heq
    rw [take, if_neg hnot, heq, close_of_open rfl, List.reverse_reverse]
    change Grown b _ ({ b with awaited := _ }.add _)
    rw [add_awaited]
    exact grown_addAll hb [_] hrow.awaited

/-- The tokens of a row whose first node is no text end the text that is pending. -/
theorem flush_foldl_take {ns : List Node} (hp : arePlain ns = true)
    (hh : ∀ n ∈ ns.head?, n.kind ≠ .text) (b : Builder) :
    ((tokensOfAll ns).foldl take b).flush .plain =
      ((tokensOfAll ns).foldl take (b.flush .plain)).flush .plain := by
  cases ns with
  | nil => exact (flush_flush b .plain).symm
  | cons n ns =>
    have hk : n.kind = .element := (isPlain_kind (arePlain_cons hp).1).resolve_left (hh n rfl)
    obtain ⟨kind, name, attrs, children, text⟩ := n
    cases hk
    have hstart : b.take (.startTag name attrs) = (b.flush .plain).take (.startTag name attrs) := by
      rw [take, take, flush_flush, awaited_flush]
    rw [tokensOfAll, tokensOf, List.cons_append, List.foldl_cons, List.foldl_cons, hstart]

/-- What a builder without pending text becomes by the tokens of a node; only a text leaves some
pending. -/
def Grows (n : Node) : Prop := ∀ b : Builder, b.pending = [] →
  (∀ name ∈ b.awaited, name ∈ emptyElements) →
    Grown b (readBack b.preserves n) (((tokensOf n).foldl take b).flush .plain) ∧
      (n.kind ≠ .text → ((tokensOf n).foldl take b).pending = [])

theorem grown_row {ns : List Node} (h : ∀ n ∈ ns, isPlain n = true → Grows n)
    (hp : arePlain ns = true) {b : Builder} (hb : b.pending = [])
    (ha : ∀ n ∈ b.awaited, n ∈ emptyElements) :
    Grown b (readBackAll b.preserves ns) (((tokensOfAll ns).foldl take b).flush .plain) := by
  induction ns generalizing b with
  | nil =>
    rw [tokensOfAll, List.foldl_nil, flush_of_nil hb]
    exact ⟨rfl, hb, ha⟩
  | cons n ns ih =>
    obtain ⟨hn, hns⟩ := List.forall_mem_cons.1 h
    obtain ⟨hplain, hadjacent, hps⟩ := arePlain_cons hp
    obtain ⟨hfirst, hpending⟩ := hn hplain b hb ha
    have hrest := ih hns hps hfirst.pending hfirst.awaited
    rw [hfirst.preserves] at hrest
    have hflush : ((tokensOfAll ns).foldl take ((tokensOf n).foldl take b)).flush .plain =
        ((tokensOfAll ns).foldl take (((tokensOf n).foldl take b).flush .plain)).flush .plain := by
      by_cases hk : n.kind = .text
      · exact flush_foldl_take hps (hadjacent hk) _
      · rw [flush_of_nil (hpending hk)]
    rw [tokensOfAll, List.foldl_append, readBackAll, hflush]
    exact hfirst.trans hrest

theorem grows_of_isPlain (n : Node) : isPlain n = true → Grows n := by
  induction n using Node.induction with
  | step n ih =>
    intro hp b hb ha
    rcases isPlain_kind hp with hk | hk
    · refine ⟨grown_text hb ha n hk, ?_⟩
      intro hne
      exact absurd hk hne
    · obtain ⟨kind, name, attrs, children, text⟩ := n
      cases hk
      have hplain := PlainElement.of_isPlain hp
      have hgrown := grown_element text hplain
        (fun b => grown_row ih hplain.plainChildren) hb ha
      constructor
      · rw [flush_of_nil hgrown.pending]
        exact hgrown
      · intro _
        exact hgrown.pending

end Builder

/-- The trees built from the tokens of a written row of plain trees. -/
theorem treesOf_tokensOfAll {ns : List Node} (hp : arePlain ns = true) :
    treesOf (tokensOfAll ns) = readBackAll false ns := by
  have hrow := Builder.grown_row (b := {}) (fun n _ => Builder.grows_of_isPlain n) hp rfl
    fun n hn => by cases hn
  have heq := hrow.eq
  rw [Builder.addAll_of_closed rfl] at heq
  change (Nat.repeat Builder.pop _ _).contents.reverse = _
  rw [heq]
  change ((readBackAll false ns).reverse ++ []).reverse = _
  rw [List.append_nil, List.reverse_reverse]

end MarkupCode.Html
