import MarkupCode.Preview.Reading

/-!
# The panes of a preview page

A pattern is clear of a text when no occurrence of it can begin there, whatever follows the text. The
tags of a pane are clear of the fixed parts of a page and, since they begin with an angle bracket, of
everything that is escaped. So the panes of a page are those of its layout, and hold the escaped markup
and code.
-/

namespace MarkupCode

namespace Text

/-- No occurrence of the pattern begins in the text, also none that goes on behind it. -/
def isClear (pattern : Text) : Text → Bool
  | [] => true
  | c :: rest =>
    !pattern.isPrefixOf (c :: rest) && !(c :: rest).isPrefixOf pattern && isClear pattern rest

variable {pattern s : Text}

theorem isClear_cons {c : Char} :
    isClear pattern (c :: s) = true ↔
      ¬pattern <+: c :: s ∧ ¬c :: s <+: pattern ∧ isClear pattern s = true := by
  simp [isClear, ← List.isPrefixOf_iff_prefix, and_assoc]

theorem not_prefix_append {c : Char} (h : isClear pattern (c :: s) = true) (rest : Text) :
    ¬pattern <+: c :: s ++ rest := by
  obtain ⟨hnone, hnotBegun, -⟩ := isClear_cons.1 h
  intro hprefix
  rcases List.prefix_or_prefix_of_prefix hprefix (List.prefix_append _ rest) with h | h
  · exact hnone h
  · exact hnotBegun h

theorem isClear_append {s' : Text} (h : isClear pattern s = true) (h' : isClear pattern s' = true) :
    isClear pattern (s ++ s') = true := by
  induction s with
  | nil => exact h'
  | cons c s ih =>
    obtain ⟨-, hnotBegun, hrest⟩ := isClear_cons.1 h
    refine isClear_cons.2 ⟨not_prefix_append h s', fun hprefix => hnotBegun ?_, ih hrest⟩
    exact (List.prefix_append (c :: s) s').trans hprefix

theorem isClear_of_append {s' : Text} (h : isClear pattern (s ++ s') = true) : isClear pattern s' = true := by
  induction s with
  | nil => exact h
  | cons c s ih => exact ih (isClear_cons.1 h).2.2

/-- A text without a pattern's first character is clear of the pattern. -/
theorem isClear_of_notMem {first : Char} (h : first ∉ s) : isClear (first :: pattern) s = true := by
  induction s with
  | nil => rfl
  | cons c s ih =>
    have hne : first ≠ c := fun e => h (e ▸ List.mem_cons_self)
    refine isClear_cons.2 ⟨?_, ?_, ih fun hmem => h (List.mem_cons_of_mem _ hmem)⟩
    · rintro ⟨_, hprefix⟩
      exact hne (List.cons.inj hprefix).1
    · rintro ⟨_, hprefix⟩
      exact hne (List.cons.inj hprefix).1.symm

/-- A literal is clear when its characters are. -/
theorem isClear_toList {literal : String} (hs : literal = String.ofList s)
    (h : isClear pattern s = true) : isClear pattern literal.toList = true := by
  rwa [hs, String.toList_ofList]

theorem isClear_append_toList {left right : String} (h : isClear pattern left.toList = true)
    (h' : isClear pattern right.toList = true) : isClear pattern (left ++ right).toList = true := by
  rw [String.toList_append]
  exact isClear_append h h'

theorem toList_of_eq_append {whole left right : String} (h : whole = left ++ right) :
    whole.toList = left.toList ++ right.toList := by
  rw [h, String.toList_append]

theorem cutAt?_append (h : isClear pattern s = true) (rest : Text) :
    cutAt? pattern (s ++ pattern ++ rest) = some (s, rest) := by
  induction s with
  | nil =>
    unfold cutAt?
    rw [List.nil_append, if_pos (List.prefix_append _ _), List.drop_left]
  | cons c s ih =>
    have hnone := not_prefix_append h (pattern ++ rest)
    rw [← List.append_assoc] at hnone
    unfold cutAt?
    rw [if_neg hnone]
    change (cutAt? pattern (s ++ pattern ++ rest)).map _ = _
    rw [ih (isClear_cons.1 h).2.2]
    rfl

end Text

namespace Preview

theorem cutBetween?_append {left right before inside : Text} (hbefore : Text.isClear left before = true)
    (hinside : Text.isClear right inside = true) (behind : Text) :
    cutBetween? left right (before ++ left ++ (inside ++ right ++ behind)) =
      some (before, inside, behind) := by
  unfold cutBetween?
  rw [Text.cutAt?_append hbefore]
  change (Text.cutAt? right (inside ++ right ++ behind)).bind _ = _
  rw [Text.cutAt?_append hinside]
  rfl

def betweenTitleAndPane : Text :=
  ("</title>\n<style>\n" ++
    "body \x7b font-family: sans-serif; margin: 0; display: flex; gap: 1em; padding: 1em; \x7d\n" ++
    "section \x7b flex: 1; min-width: 0; \x7d\n" ++
    "pre \x7b background: #f5f5f5; padding: 1em; overflow: auto; \x7d\n" ++
    "</style>\n</head>\n<body>\n<section id=\"source\">\n<h2>HTML</h2>\n").toList

def betweenPanes : Text := "\n</section>\n<section id=\"target\">\n<h2>Falco.Markup</h2>\n".toList

def behindPanes : Text := "\n</section>\n</body>\n</html>\n".toList

theorem betweenTitleAndSource_eq : betweenTitleAndSource = betweenTitleAndPane ++ paneOpening := by
  have hlast : "</style>\n</head>\n<body>\n<section id=\"source\">\n<h2>HTML</h2>\n<pre>" =
      "</style>\n</head>\n<body>\n<section id=\"source\">\n<h2>HTML</h2>\n" ++ "<pre>" := rfl
  exact Text.toList_of_eq_append ((congrArg _ hlast).trans String.append_assoc.symm)

theorem betweenSourceAndCode_eq :
    betweenSourceAndCode = paneClosing ++ (betweenPanes ++ paneOpening) := by
  have hfirst : "</pre>\n</section>\n<section id=\"target\">\n<h2>Falco.Markup</h2>\n<pre>" =
      "</pre>" ++ "\n</section>\n<section id=\"target\">\n<h2>Falco.Markup</h2>\n<pre>" := rfl
  have hlast : "\n</section>\n<section id=\"target\">\n<h2>Falco.Markup</h2>\n<pre>" =
      "\n</section>\n<section id=\"target\">\n<h2>Falco.Markup</h2>\n" ++ "<pre>" := rfl
  exact (Text.toList_of_eq_append hfirst).trans (congrArg _ (Text.toList_of_eq_append hlast))

theorem closing_eq : closing = paneClosing ++ behindPanes := by
  have hall : "</pre>\n</section>\n</body>\n</html>\n" =
      "</pre>" ++ "\n</section>\n</body>\n</html>\n" := rfl
  exact Text.toList_of_eq_append hall

theorem page_eq (title source code : Text) :
    page title source code =
      opening ++ escape title ++ betweenTitleAndPane ++ paneOpening ++
        (escape source ++ paneClosing ++
          (betweenPanes ++ paneOpening ++ (escape code ++ paneClosing ++ behindPanes))) := by
  rw [page, betweenTitleAndSource_eq, betweenSourceAndCode_eq, closing_eq]
  simp only [List.append_assoc]

theorem isClear_opening : Text.isClear paneOpening opening = true :=
  Text.isClear_append_toList (Text.isClear_toList rfl (by decide +kernel))
    (Text.isClear_toList rfl (by decide +kernel))

theorem isClear_betweenTitleAndPane : Text.isClear paneOpening betweenTitleAndPane = true := by
  refine Text.isClear_append_toList (Text.isClear_append_toList (Text.isClear_append_toList
    (Text.isClear_append_toList ?_ ?_) ?_) ?_) ?_
  all_goals exact Text.isClear_toList rfl (by decide +kernel)

theorem isClear_betweenPanes : Text.isClear paneOpening betweenPanes = true :=
  Text.isClear_toList rfl (by decide +kernel)

section

variable {page before inside behind : Text}

theorem pane?_zero (h : cutBetween? paneOpening paneClosing page = some (before, inside, behind)) :
    pane? page 0 = some inside := by
  rw [pane?, h]
  rfl

theorem pane?_succ (h : cutBetween? paneOpening paneClosing page = some (before, inside, behind))
    (n : Nat) : pane? page (n + 1) = pane? behind n := by
  rw [pane?, h]
  rfl

end

/-- The two panes of a page hold the escaped markup and the escaped code. -/
theorem pane?_page (title source code : Text) :
    pane? (page title source code) 0 = some (escape source) ∧
      pane? (page title source code) 1 = some (escape code) := by
  have htitle : Text.isClear paneOpening (escape title) = true :=
    Text.isClear_of_notMem (lt_notMem_escape title)
  have hinside (s : Text) : Text.isClear paneClosing (escape s) = true :=
    Text.isClear_of_notMem (lt_notMem_escape s)
  have hbefore := Text.isClear_append (Text.isClear_append isClear_opening htitle)
    isClear_betweenTitleAndPane
  have hfirst := (congrArg (cutBetween? paneOpening paneClosing) (page_eq title source code)).trans
    (cutBetween?_append hbefore (hinside source) _)
  have hsecond := cutBetween?_append isClear_betweenPanes (hinside code) behindPanes
  exact ⟨pane?_zero hfirst, (pane?_succ hfirst 0).trans (pane?_zero hsecond)⟩

end Preview
end MarkupCode
