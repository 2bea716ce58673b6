import MarkupCode.Html.Lexer
import MarkupCode.Proofs.Text.Lower

/-!
# The order of tokens

`Leads` tells which tokens can stand one behind the other: inside an element whose text is verbatim there
is only text, up to the end tag of that element, and the names of elements are in lower case. Every
construct that can be read keeps to this, so both passes do, and so do the tokens of a page.
-/

namespace MarkupCode.Html

def opened (name : Text) : Option Text := if name ∈ verbatimElements then some name else none

/-- Tokens that can be read with one verbatim element open before them and another one behind. -/
inductive Leads : Option Text → List Token → Option Text → Prop
  | nil (v : Option Text) : Leads v [] v
  | text {v w : Option Text} {ts : List Token} (s : Text) : Leads v ts w → Leads v (.text s :: ts) w
  | startTag {name : Text} {w : Option Text} {ts : List Token} (attrs : List (Text × Text)) :
    Text.lower name = name → Leads (opened name) ts w → Leads none (.startTag name attrs :: ts) w
  | emptyTag {name : Text} {w : Option Text} {ts : List Token} (attrs : List (Text × Text)) :
    Text.lower name = name → Leads none ts w → Leads none (.emptyTag name attrs :: ts) w
  | endTag {v w : Option Text} {name : Text} {ts : List Token} :
    v = none ∨ v = some name → Leads none ts w → Leads v (.endTag name :: ts) w
  | inert {w : Option Text} {ts : List Token} (sort : StringSort) (s : Text) :
    Leads none ts w → Leads none (.inert sort s :: ts) w

theorem Leads.append {u v w : Option Text} {ts us : List Token} (h : Leads u ts v)
    (h' : Leads v us w) : Leads u (ts ++ us) w := by
  induction h with
  | nil v => exact h'
  | text s _ ih => exact .text s (ih h')
  | startTag attrs hn _ ih => exact .startTag attrs hn (ih h')
  | emptyTag attrs hn _ ih => exact .emptyTag attrs hn (ih h')
  | endTag hv _ ih => exact .endTag hv (ih h')
  | inert sort s _ ih => exact .inert sort s (ih h')

theorem leads_textTokens (v : Option Text) (s : Text) : Leads v (textTokens s) v := by
  unfold textTokens
  split
  · exact .nil v
  · exact .text s (.nil v)

def Piece.Follows (v : Option Text) (p : Piece) : Prop := Leads v p.tokens p.verbatim

theorem Piece.Follows.after {v : Option Text} {p : Piece} (h : p.Follows v) (before : Text) :
    (p.after before).Follows v :=
  (leads_textTokens v before).append h

/-! ### Markup -/

theorem follows_startTag {s : Text} {p : Piece} (h : startTag none s = .ok (some p)) :
    p.Follows none := by
  have hname := Text.lower_lower (s.takeWhile isTagNameChar)
  unfold startTag at h
  dsimp only at h
  split at h
  · cases h
  · obtain ⟨attrs, _, h⟩ := Outcome.exists_of_bind_ok h
    cases h
    exact .startTag attrs hname (.nil _)
  · obtain ⟨attrs, _, h⟩ := Outcome.exists_of_bind_ok h
    cases h
    exact .emptyTag attrs hname (.nil none)
  · obtain ⟨attrs, _, h⟩ := Outcome.exists_of_bind_ok h
    cases h
    exact .text _ (.nil none)

theorem follows_endTag {v : Option Text} {s : Text} {p : Piece} (h : endTag v s = some p) :
    p.Follows v := by
  unfold endTag at h
  obtain ⟨⟨inside, rest⟩, _, h⟩ := Option.bind_eq_some_iff.1 h
  dsimp only at h
  split at h
  · cases h
    exact .endTag (.inl rfl) (.nil none)
  · split at h
    · next hn =>
      cases h
      exact .endTag (.inr (by rw [hn])) (.nil none)
    · cases h
      exact .text _ (.nil _)
  · cases h
    exact .text _ (.nil _)
  · split at h
    · cases h
      exact .nil none
    · split at h
      · cases h
        exact .endTag (.inl rfl) (.nil none)
      · cases h
        exact .inert _ _ (.nil none)

theorem follows_inert (sort : StringSort) (s rest : Text) :
    (⟨[.inert sort s], none, rest⟩ : Piece).Follows none :=
  .inert sort s (.nil none)

theorem follows_sectionToken (s rest : Text) :
    (⟨[sectionToken s], none, rest⟩ : Piece).Follows none := by
  unfold sectionToken
  split <;> exact follows_inert _ _ _

theorem follows_markedSection {s : Text} {p : Piece} (h : markedSection none s = .ok (some p)) :
    p.Follows none := by
  have hw {delimiter : Text → Option Text} {q : Piece}
      (hq : (find? delimiter s).map (fun c => ⟨[sectionToken c.1], none, c.2⟩) = some q) :
      q.Follows none := by
    obtain ⟨⟨inside, rest⟩, _, rfl⟩ := Option.map_eq_some_iff.1 hq
    exact follows_sectionToken inside rest
  unfold markedSection at h
  dsimp only at h
  split at h
  · cases h
  · repeat' split at h
    · cases h
    · cases h
    · exact hw (Except.ok.inj h)
    · exact hw (Except.ok.inj h)
    · cases h

theorem follows_declaration {s : Text} {p : Piece} (h : declaration none s = .ok (some p)) :
    p.Follows none := by
  unfold declaration at h
  split at h
  · obtain ⟨⟨inside, rest⟩, _, rfl⟩ := Option.map_eq_some_iff.1 (Except.ok.inj h)
    exact follows_inert _ _ _
  · exact follows_markedSection h
  · split at h
    · obtain ⟨⟨inside, rest⟩, _, rfl⟩ := Option.map_eq_some_iff.1 (Except.ok.inj h)
      exact follows_inert _ _ _
    · obtain ⟨⟨inside, rest⟩, _, rfl⟩ := Option.map_eq_some_iff.1 (Except.ok.inj h)
      exact follows_inert _ _ _

/-- A construct keeps the order of tokens wherever it can be read: inside a verbatim element that is at
the slash of an end tag only. -/
theorem follows_construct {v : Option Text} {s : Text} {p : Piece}
    (hv : v = none ∨ s.head? = some '/') (h : construct v s = .ok (some p)) : p.Follows v := by
  obtain rfl | hs := hv
  · unfold construct at h
    split at h
    · exact follows_endTag (Except.ok.inj h)
    · obtain ⟨⟨inside, rest⟩, _, rfl⟩ := Option.map_eq_some_iff.1 (Except.ok.inj h)
      exact follows_inert _ _ _
    · exact follows_declaration h
    · split at h
      · exact follows_startTag h
      · cases h
        exact .text _ (.nil none)
    · cases h
  · obtain ⟨r, rfl⟩ := List.head?_eq_some_iff.1 hs
    exact follows_endTag (Except.ok.inj h)

/-! ### References -/

/-- A piece of running text leaves the open verbatim element as it is. -/
theorem follows_text (v : Option Text) (s rest : Text) : (⟨[.text s], v, rest⟩ : Piece).Follows v :=
  .text s (.nil v)

theorem follows_nil (v : Option Text) (rest : Text) : (⟨[], v, rest⟩ : Piece).Follows v := .nil v

def Step.Follows (v : Option Text) : Step → Prop
  | .advance p => p.Follows v
  | .stop p => p.Follows v

theorem follows_stopped {v : Option Text} {s : Text} {q : Step}
    (h : numericReference.stopped v s = .ok q) : q.Follows v := by
  unfold numericReference.stopped at h
  split at h
  · cases h
    exact follows_text v _ _
  · cases h
    exact follows_nil v _

theorem follows_numericReference {v : Option Text} {s : Text} {q : Step}
    (h : numericReference v s = .ok q) : q.Follows v := by
  unfold numericReference at h
  dsimp only at h
  split at h
  · split at h
    · exact follows_stopped h
    · obtain ⟨t, _, h⟩ := Outcome.exists_of_bind_ok h
      cases h
      exact follows_text v _ _
  · exact follows_stopped h

theorem follows_namedReference {final : Bool} {v : Option Text} {s : Text} {q : Step}
    (h : namedReference final v s = .ok q) : q.Follows v := by
  unfold namedReference at h
  dsimp only at h
  repeat' split at h
  · obtain ⟨t, _, h⟩ := Outcome.exists_of_bind_ok h
    cases h
    exact follows_text v _ _
  · obtain ⟨t, _, h⟩ := Outcome.exists_of_bind_ok h
    cases h
    exact follows_text v _ _
  · cases h
    exact follows_nil v _
  · cases h
    exact follows_nil v _

theorem follows_reference {final : Bool} {v : Option Text} {s : Text} {q : Step}
    (h : reference final v s = .ok q) : q.Follows v := by
  unfold reference at h
  split at h
  · cases h
    exact follows_nil v _
  · exact follows_numericReference h
  · split at h
    · exact follows_namedReference h
    · cases h
      exact follows_text v _ _

/-! ### Passes -/

theorem follows_markupAsText (v : Option Text) (s : Text) : (markupAsText v s).Follows v := by
  unfold markupAsText
  split
  · exact follows_text v _ _
  · split <;> exact follows_text v _ _

theorem follows_markup {final : Bool} {v : Option Text} {s : Text} {q : Step}
    (hv : v = none ∨ s.head? = some '/') (h : markup final v s = .ok q) : q.Follows v := by
  obtain ⟨found, hf, h⟩ := Outcome.exists_of_bind_ok h
  cases found with
  | none =>
    dsimp only at h
    split at h
    · cases h
      exact follows_markupAsText v s
    · cases h
      exact follows_nil v _
  | some piece =>
    cases h
    exact follows_construct hv hf

theorem breakAt_of_ne_nil {q : Text → Bool} {s : Text} (h : (breakAt q s).2 ≠ []) :
    q (breakAt q s).2 = true := by
  induction s with
  | nil => exact absurd rfl h
  | cons c r ih =>
    unfold breakAt at h ⊢
    split
    · next hq => exact hq
    · next hq =>
      rw [if_neg hq] at h
      exact ih h

theorem closesVerbatim_eq_true {name s : Text} (h : closesVerbatim name s = true) :
    ∃ r, s = '<' :: '/' :: r := by
  unfold closesVerbatim at h
  split at h
  · exact ⟨_, rfl⟩
  · cases h

theorem follows_scan {final : Bool} {v : Option Text} {s : Text} {q : Step}
    (hv : v = none ∨ ∃ r, s = '<' :: '/' :: r) (h : scan final v s = .ok q) : q.Follows v := by
  unfold scan at h
  split at h
  · next r =>
    apply follows_markup ?_ h
    rcases hv with hv | ⟨t, ht⟩
    · exact .inl hv
    · rw [(List.cons.inj ht).2]
      exact .inr rfl
  · exact follows_reference h
  · cases h
    exact follows_nil v _

/-- A step reads on behind text. With a verbatim element open it stands at an end tag there, or stops. -/
theorem follows_step {final : Bool} {v : Option Text} {s : Text} {q : Step}
    (h : step final v s = .ok q) : q.Follows v := by
  unfold step at h
  dsimp only at h
  split at h
  · cases h
    exact follows_nil v s
  · next hne =>
    obtain ⟨scanned, hscan, rfl⟩ := Outcome.exists_of_map_ok h
    have hv : v = none ∨ ∃ r, (interesting v s).2 = '<' :: '/' :: r := by
      cases v with
      | none => exact .inl rfl
      | some name =>
        have hstops : (interesting (some name) s).2 ≠ [] := by
          intro e
          exact hne ⟨e, rfl⟩
        exact .inr (closesVerbatim_eq_true (breakAt_of_ne_nil hstops))
    have hscanned := follows_scan hv hscan
    cases scanned with
    | advance p => exact hscanned.after _
    | stop p => exact hscanned.after _

theorem follows_pass {final : Bool} {v : Option Text} {s : Text} {p : Piece}
    (h : pass final v s = .ok p) : p.Follows v := by
  fun_induction pass final v s generalizing p with
  | case1 v =>
    cases h
    exact follows_nil v []
  | case2 => cases h
  | case3 v s hs q hstop =>
    cases h
    exact follows_step hstop
  | case4 v s hs q hadvance ih =>
    obtain ⟨more, hmore, rfl⟩ := Outcome.exists_of_map_ok h
    exact Leads.append (follows_step hadvance) (ih hmore)

/-- The tokens of a page keep the order, from outside any verbatim element. -/
theorem leads_tokens {html : Text} {ts : List Token} (h : tokens html = .ok ts) :
    ∃ w, Leads none ts w := by
  obtain ⟨first, hfirst, h⟩ := Outcome.exists_of_bind_ok h
  obtain ⟨second, hsecond, h⟩ := Outcome.exists_of_bind_ok h
  cases h
  have htwo := (follows_pass hfirst).append (follows_pass hsecond)
  refine ⟨second.verbatim, htwo.append ?_⟩
  split
  · exact .nil _
  · exact leads_textTokens _ _

end MarkupCode.Html
