import MarkupCode.Proofs.Yaml.Tokens

/-!
# Composing adds no fault of its own

The grammar refuses a row of tokens as malformed, and otherwise meets only the fault that the scan left
behind its last token. So whatever keeps a text from becoming a graph is a fault of the text
(`faultOf_of_compose`).
-/

namespace MarkupCode.Yaml

open Outcome

namespace Compose

/-- The step leaves the fault behind the tokens alone, and fails with it or finds the text malformed. -/
abbrev PassesOn (text : Text) {α : Type} (m : Compose α) : Prop :=
  Keeps (fun c => ∀ e, c.fault = some e → FaultOf text e) (FaultOf text) (fun _ => True) m

variable {text : Text} {α : Type}

theorem passesOn_malformed : PassesOn text (malformed : Compose α) := .throw (.malformed text)

/-- Whatever replaces the tokens, the graph, the handles or the names leaves the fault alone. -/
theorem passesOn_modify {f : Composer → Composer} (hf : ∀ c, (f c).fault = c.fault) :
    PassesOn text (modify f) :=
  .modify fun c hc e he => hc e (hf c ▸ he)

theorem passesOn_peek : PassesOn text peek := by
  refine .get_bind fun c _ => .get_bind fun c' hc => ?_
  split
  · exact .pure trivial
  · next he => exact .throw (hc _ he)
  · exact .pure trivial

theorem passesOn_drop : PassesOn text drop := passesOn_modify fun _ => rfl

theorem passesOn_accept (t : Token) : PassesOn text (accept t) :=
  passesOn_peek.bind fun _ => .ite (passesOn_drop.bind fun _ => .pure trivial) (.pure trivial)

theorem passesOn_expect (t : Token) : PassesOn text (expect t) :=
  (passesOn_accept t).bind fun _ => .ite (.pure trivial) passesOn_malformed

theorem passesOn_nextIs (ts : List Token) : PassesOn text (nextIs ts) := by
  refine passesOn_peek.bind fun t => ?_
  cases t <;> exact .pure trivial

theorem passesOn_add (n : Node) (anchor : Option Text) : PassesOn text (add n anchor) :=
  .modifyGet fun _ hc => ⟨trivial, hc⟩

theorem passesOn_setContent (id : Nat) (content : Content) : PassesOn text (setContent id content) :=
  passesOn_modify fun _ => rfl

theorem passesOn_nothing : PassesOn text nothing := passesOn_add _ _

theorem passesOn_expand (t : TagName) : PassesOn text (expand t) := by
  unfold expand
  split
  · exact .pure trivial
  · refine .get_bind fun c _ => ?_
    split
    · exact .pure trivial
    · exact passesOn_malformed

theorem passesOn_anchor? : PassesOn text anchor? := by
  refine passesOn_peek.bind fun t => ?_
  split
  · exact passesOn_drop.bind fun _ => .pure trivial
  · exact .pure trivial

theorem passesOn_tag? : PassesOn text tag? := by
  refine passesOn_peek.bind fun t => ?_
  split
  · exact passesOn_drop.bind fun _ => .pure trivial
  · exact .pure trivial

theorem passesOn_properties : PassesOn text properties := by
  refine passesOn_anchor?.bind fun first => passesOn_tag?.bind fun tag => ?_
  have hrest : ∀ (anchor tag : Option Text), PassesOn text (do
      let used := (← get).anchors
      if anchor.any fun a => (used.lookup a).isSome then malformed
      return ({ anchor, tag } : Properties)) :=
    fun anchor tag => .get_bind fun c _ => .when passesOn_malformed fun _ => .pure trivial
  -- The anchor may stand on either side of the tag.
  refine .ite ?_ (passesOn_anchor?.bind fun last => ?_)
  all_goals
    cases tag with
    | none => exact hrest _ none
    | some t => exact (passesOn_expand t).bind fun s => hrest _ (some s)

/-- A collection is a node that is filled once its items have been read. -/
theorem passesOn_collection {γ : Type} {items : Compose γ} (h : PassesOn text items) (n : Node)
    (anchor : Option Text) (content : γ → Content) :
    PassesOn text (do
      let id ← add n anchor
      setContent id (content (← items))
      return id) :=
  (passesOn_add n anchor).bind fun id => h.bind fun _ => (passesOn_setContent id _).bind fun _ =>
    .pure trivial

/-! ## Nodes and the rows in them -/

structure NodesPassOn (text : Text) (fuel : Nat) : Prop where
  node : ∀ block indentless, PassesOn text (node block indentless fuel)
  nodeBefore : ∀ block indentless ends, PassesOn text (nodeBefore block indentless ends fuel)
  blockItems : PassesOn text (blockItems fuel)
  indentlessItems : PassesOn text (indentlessItems fuel)
  blockEntries : PassesOn text (blockEntries fuel)
  flowPair : ∀ ending, PassesOn text (flowPair ending fuel)
  flowItems : ∀ first, PassesOn text (flowItems first fuel)
  flowEntries : ∀ first, PassesOn text (flowEntries first fuel)

namespace NodesPassOn

variable {fuel : Nat}

theorem node_succ (ih : NodesPassOn text fuel) (block indentless : Bool) :
    PassesOn text (Compose.node block indentless (fuel + 1)) := by
  refine passesOn_peek.bind fun t => ?_
  split
  · refine passesOn_drop.bind fun _ => .get_bind fun c _ => ?_
    split
    · exact .pure trivial
    · exact passesOn_malformed
  · refine passesOn_properties.bind fun p => passesOn_peek.bind fun t => ?_
    split
    · exact passesOn_drop.bind fun _ => passesOn_add _ _
    · exact passesOn_drop.bind fun _ => passesOn_collection (ih.flowItems true) _ _ _
    · exact passesOn_drop.bind fun _ => passesOn_collection (ih.flowEntries true) _ _ _
    · refine .ite (passesOn_collection ih.indentlessItems _ _ _) (.ite ?_ (.ite ?_ ?_))
      · exact passesOn_drop.bind fun _ => passesOn_collection ih.blockItems _ _ _
      · exact passesOn_drop.bind fun _ => passesOn_collection ih.blockEntries _ _ _
      · exact .ite (passesOn_add _ _) passesOn_malformed

theorem nodeBefore_succ (ih : NodesPassOn text fuel) (block indentless : Bool) (ends : List Token) :
    PassesOn text (Compose.nodeBefore block indentless ends (fuel + 1)) :=
  (passesOn_nextIs ends).bind fun _ => .ite passesOn_nothing (ih.node block indentless)

theorem blockItems_succ (ih : NodesPassOn text fuel) : PassesOn text (Compose.blockItems (fuel + 1)) := by
  refine (passesOn_accept _).bind fun _ => .ite ?_ ((passesOn_expect _).bind fun _ => .pure trivial)
  exact (ih.nodeBefore _ _ _).bind fun _ => ih.blockItems.bind fun _ => .pure trivial

theorem indentlessItems_succ (ih : NodesPassOn text fuel) :
    PassesOn text (Compose.indentlessItems (fuel + 1)) := by
  refine (passesOn_accept _).bind fun _ => .ite ?_ (.pure trivial)
  exact (ih.nodeBefore _ _ _).bind fun _ => ih.indentlessItems.bind fun _ => .pure trivial

theorem blockEntries_succ (ih : NodesPassOn text fuel) :
    PassesOn text (Compose.blockEntries (fuel + 1)) := by
  refine (passesOn_accept _).bind fun _ => .ite ?_ ((passesOn_expect _).bind fun _ => .pure trivial)
  refine (ih.nodeBefore _ _ _).bind fun key => (passesOn_accept _).bind fun _ => .ite ?_ ?_
  · exact (ih.nodeBefore _ _ _).bind fun _ => ih.blockEntries.bind fun _ => .pure trivial
  · exact passesOn_nothing.bind fun _ => ih.blockEntries.bind fun _ => .pure trivial

theorem flowPair_succ (ih : NodesPassOn text fuel) (ending : Token) :
    PassesOn text (Compose.flowPair ending (fuel + 1)) := by
  refine (ih.nodeBefore _ _ _).bind fun key => (passesOn_accept _).bind fun _ => .ite ?_ ?_
  · exact (ih.nodeBefore _ _ _).bind fun _ => .pure trivial
  · exact passesOn_nothing.bind fun _ => .pure trivial

theorem flowItems_succ (ih : NodesPassOn text fuel) (first : Bool) :
    PassesOn text (Compose.flowItems first (fuel + 1)) := by
  refine (passesOn_accept _).bind fun _ => .ite (.pure trivial) (.when (passesOn_expect _) fun _ => ?_)
  refine (passesOn_accept _).bind fun _ => .ite ?_ ((passesOn_accept _).bind fun _ => .ite (.pure trivial) ?_)
  · refine (passesOn_add _ _).bind fun id => (ih.flowPair _).bind fun _ => ?_
    exact (passesOn_setContent id _).bind fun _ => (ih.flowItems false).bind fun _ => .pure trivial
  · exact (ih.node _ _).bind fun _ => (ih.flowItems false).bind fun _ => .pure trivial

theorem flowEntries_succ (ih : NodesPassOn text fuel) (first : Bool) :
    PassesOn text (Compose.flowEntries first (fuel + 1)) := by
  refine (passesOn_accept _).bind fun _ => .ite (.pure trivial) (.when (passesOn_expect _) fun _ => ?_)
  refine (passesOn_accept _).bind fun _ => .ite ?_ ((passesOn_accept _).bind fun _ => .ite (.pure trivial) ?_)
  · exact (ih.flowPair _).bind fun _ => (ih.flowEntries false).bind fun _ => .pure trivial
  · refine (ih.node _ _).bind fun _ => passesOn_nothing.bind fun _ => ?_
    exact (ih.flowEntries false).bind fun _ => .pure trivial

end NodesPassOn

theorem nodesPassOn (text : Text) (fuel : Nat) : NodesPassOn text fuel := by
  induction fuel with
  | zero =>
    exact ⟨fun _ _ => passesOn_malformed, fun _ _ _ => passesOn_malformed, passesOn_malformed,
      passesOn_malformed, passesOn_malformed, fun _ => passesOn_malformed, fun _ => passesOn_malformed,
      fun _ => passesOn_malformed⟩
  | succ fuel ih =>
    exact ⟨ih.node_succ, ih.nodeBefore_succ, ih.blockItems_succ, ih.indentlessItems_succ,
      ih.blockEntries_succ, ih.flowPair_succ, ih.flowItems_succ, ih.flowEntries_succ⟩

/-! ## The document -/

theorem passesOn_directives (fuel : Nat) (versioned : Bool) (handles : List (Text × Text)) :
    PassesOn text (directives versioned handles fuel) := by
  induction fuel generalizing versioned handles with
  | zero => exact passesOn_malformed
  | succ fuel ih =>
    refine passesOn_peek.bind fun t => ?_
    split
    · refine passesOn_drop.bind fun _ => ?_
      split
      · exact .ite passesOn_malformed (ih _ _)
      · exact .ite passesOn_malformed (ih _ _)
      · exact ih _ _
    · exact passesOn_modify fun _ => rfl

theorem passesOn_dropEnds (fuel : Nat) : PassesOn text (dropEnds fuel) := by
  induction fuel with
  | zero => exact passesOn_malformed
  | succ fuel ih => exact (passesOn_accept _).bind fun _ => .ite ih (.pure trivial)

theorem passesOn_document : PassesOn text document := by
  refine .get_bind fun c _ => passesOn_peek.bind fun first => ?_
  cases first with
  | none => exact .pure trivial
  | some t =>
    have hnode := (nodesPassOn text (2 * c.tokens.length + 4)).node true false
    have hend : ∀ root : Nat, PassesOn text (do
        dropEnds (2 * c.tokens.length + 4)
        if (← peek).isSome then
          directives false [] (2 * c.tokens.length + 4)
          malformed
        return some root) := by
      refine fun root => (passesOn_dropEnds _).bind fun _ => passesOn_peek.bind fun _ => ?_
      exact .ite ((passesOn_directives _ _ _).bind fun _ => passesOn_malformed.bind fun _ => .pure trivial)
        (.pure trivial)
    refine .ite ?_ (hnode.bind hend)
    refine (passesOn_directives _ _ _).bind fun _ => (passesOn_expect _).bind fun _ => ?_
    exact passesOn_peek.bind fun next => .ite (passesOn_nothing.bind hend) (hnode.bind hend)

end Compose

theorem faultOf_of_compose {text : Text} {e : Error} (h : compose text = .error e) : FaultOf text e := by
  have hdocument : Compose.PassesOn text Compose.document := Compose.passesOn_document
  have hstart := hdocument
    { tokens := (tokens text).1, fault := (tokens text).2, handles := Compose.defaultHandles }
    fun _ he => faultOf_of_tokens he
  have hcompose : Ends (FaultOf text) (fun _ => True) (compose text) :=
    hstart.bind fun _ _ => .pure trivial
  rwa [h] at hcompose

end MarkupCode.Yaml
