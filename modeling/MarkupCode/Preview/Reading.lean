import MarkupCode.Preview.Page
import MarkupCode.Text.Pieces

/-!
# Reading a preview page

The three values of a preview page stand between the tags of its title and of its two panes, the
first of each kind on the page. `parts?` cuts them out and undoes the escapes; `tags` lists the tags of a
page.
-/

namespace MarkupCode.Preview

def unescape : Text → Text
  | [] => []
  | '&' :: 'a' :: 'm' :: 'p' :: ';' :: rest => '&' :: unescape rest
  | '&' :: 'l' :: 't' :: ';' :: rest => '<' :: unescape rest
  | '&' :: 'g' :: 't' :: ';' :: rest => '>' :: unescape rest
  | '&' :: '#' :: '3' :: '9' :: ';' :: rest => '\'' :: unescape rest
  | '&' :: '#' :: '3' :: '4' :: ';' :: rest => '"' :: unescape rest
  | c :: rest => c :: unescape rest

theorem unescape_cons {c : Char} (h : c ≠ '&') (rest : Text) :
    unescape (c :: rest) = c :: unescape rest := by
  conv => lhs; unfold unescape
  split <;> simp_all

theorem unescape_escapeChar_append (c : Char) (rest : Text) :
    unescape (escapeChar c ++ rest) = c :: unescape rest := by
  unfold escapeChar
  split
  · next h => subst h; rfl
  split
  · next h => subst h; rfl
  split
  · next h => subst h; rfl
  split
  · next h => subst h; rfl
  split
  · next h => subst h; rfl
  · next h _ _ _ _ => exact unescape_cons h rest

/-- Every text is read back from its escaped form. -/
theorem unescape_escape (s : Text) : unescape (escape s) = s := by
  induction s with
  | nil => rfl
  | cons c r ih => rw [escape, List.flatMap_cons, unescape_escapeChar_append, ← escape, ih]

/-- A page around the first text between two patterns: before, inside and behind. -/
def cutBetween? (left right : Text) (page : Text) : Option (Text × Text × Text) := do
  let (before, rest) ← Text.cutAt? left page
  let (inside, behind) ← Text.cutAt? right rest
  return (before, inside, behind)

def paneOpening : Text := "<pre>".toList

def paneClosing : Text := "</pre>".toList

/-- The text in a pane of a page, the first of them being number 0. -/
def pane? (page : Text) : Nat → Option Text
  | 0 => (cutBetween? paneOpening paneClosing page).map (·.2.1)
  | n + 1 => do
    let (_, _, behind) ← cutBetween? paneOpening paneClosing page
    pane? behind n

structure Parts where
  fixed : List Text
  title : Text
  source : Text
  code : Text
  deriving DecidableEq

def parts? (page : Text) : Option Parts := do
  let (a, title, rest) ← cutBetween? "<title>".toList "</title>".toList page
  let (b, source, rest) ← cutBetween? "<pre>".toList "</pre>".toList rest
  let (c, code, rest) ← cutBetween? "<pre>".toList "</pre>".toList rest
  return ⟨[a, b, c, rest], unescape title, unescape source, unescape code⟩

/-- The tag that is open behind a text, as far as it is written, when `tag` is open in front of it. -/
def openTag : Option Text → Text → Option Text
  | tag, [] => tag
  | none, c :: rest => openTag (if c = '<' then some [] else none) rest
  | some tag, c :: rest => openTag (if c = '>' then none else some (tag ++ [c])) rest

/-- The tags that end in a text, without their angle brackets, when `tag` is open in front of it. -/
def tagsFrom : Option Text → Text → List Text
  | _, [] => []
  | none, c :: rest => tagsFrom (if c = '<' then some [] else none) rest
  | some tag, c :: rest =>
    if c = '>' then tag :: tagsFrom none rest else tagsFrom (some (tag ++ [c])) rest

def tags (page : Text) : List Text := tagsFrom none page

theorem openTag_append (tag : Option Text) (s t : Text) :
    openTag tag (s ++ t) = openTag (openTag tag s) t := by
  induction s generalizing tag with
  | nil => cases tag <;> rfl
  | cons c s ih => cases tag <;> exact ih _

theorem tagsFrom_append (tag : Option Text) (s t : Text) :
    tagsFrom tag (s ++ t) = tagsFrom tag s ++ tagsFrom (openTag tag s) t := by
  induction s generalizing tag with
  | nil => cases tag <;> rfl
  | cons c s ih =>
    cases tag with
    | none => exact ih _
    | some tag =>
      rw [List.cons_append, tagsFrom, tagsFrom, openTag]
      split
      · rw [ih, List.cons_append]
      · exact ih _

end MarkupCode.Preview
