import MarkupCode.Proofs.Preview.Panes

/-!
# The values of a preview page

A page is cut at the tags of its title and of its panes, which are the page's own: what is escaped has no
angle bracket, so no tag begins, ends or changes in it. The three values are read back as they were, and all
else, the tags among it, is the same on every page.
-/

namespace MarkupCode.Preview

/-! ### Tags -/

def IsSettled (s : Text) : Prop := openTag none s = none

theorem IsSettled.append {s t : Text} (hs : IsSettled s) (ht : IsSettled t) : IsSettled (s ++ t) := by
  rw [IsSettled, openTag_append, hs]
  exact ht

theorem tags_append {s : Text} (hs : IsSettled s) (t : Text) : tags (s ++ t) = tags s ++ tags t := by
  rw [tags, tagsFrom_append, hs]
  rfl

theorem isSettled_and_tags_of_notMem {s : Text} (h : '<' ∉ s) : IsSettled s ∧ tags s = [] := by
  induction s with
  | nil => exact ⟨rfl, rfl⟩
  | cons c s ih =>
    rw [List.mem_cons, not_or] at h
    rw [IsSettled, openTag, tags, tagsFrom, if_neg (Ne.symm h.1)]
    exact ih h.2

theorem isSettled_escape (s : Text) : IsSettled (escape s) :=
  (isSettled_and_tags_of_notMem (lt_notMem_escape s)).1

theorem tags_escape (s : Text) : tags (escape s) = [] :=
  (isSettled_and_tags_of_notMem (lt_notMem_escape s)).2

theorem isSettled_toList {literal : String} {s : Text} (hs : literal = String.ofList s)
    (h : openTag none s = none) : IsSettled literal.toList := by
  rwa [hs, String.toList_ofList]

theorem isSettled_append_toList {left right : String} (h : IsSettled left.toList)
    (h' : IsSettled right.toList) : IsSettled (left ++ right).toList := by
  rw [String.toList_append]
  exact h.append h'

theorem isSettled_opening : IsSettled opening :=
  isSettled_append_toList (isSettled_toList rfl (by decide +kernel))
    (isSettled_toList rfl (by decide +kernel))

theorem isSettled_betweenTitleAndSource : IsSettled betweenTitleAndSource := by
  refine isSettled_append_toList (isSettled_append_toList (isSettled_append_toList
    (isSettled_append_toList ?_ ?_) ?_) ?_) ?_
  all_goals exact isSettled_toList rfl (by decide +kernel)

theorem isSettled_betweenSourceAndCode : IsSettled betweenSourceAndCode :=
  isSettled_toList rfl (by decide +kernel)

/-- The tags of a page are those of its fixed parts. -/
theorem tags_page (title source code : Text) :
    tags (page title source code) =
      tags opening ++ tags betweenTitleAndSource ++ tags betweenSourceAndCode ++ tags closing := by
  have htitle := isSettled_opening.append (isSettled_escape title)
  have hsource := (htitle.append isSettled_betweenTitleAndSource).append (isSettled_escape source)
  have hcode := (hsource.append isSettled_betweenSourceAndCode).append (isSettled_escape code)
  rw [page, tags_append hcode, tags_append (hsource.append isSettled_betweenSourceAndCode),
    tags_append hsource, tags_append (htitle.append isSettled_betweenTitleAndSource),
    tags_append htitle, tags_append isSettled_opening, tags_escape, tags_escape, tags_escape]
  simp only [List.append_nil]

/-! ### Cuts -/

def titleOpening : Text := "<title>".toList

def titleClosing : Text := "</title>".toList

def preamble : Text :=
  ("<!DOCTYPE html>\n<html lang=\"en\">\n<head>\n<meta charset=\"utf-8\"/>\n" ++
    "<meta name=\"viewport\" content=\"width=device-width,initial-scale=1\"/>\n").toList

theorem opening_eq : opening = preamble ++ titleOpening := by
  have hlast : "<meta name=\"viewport\" content=\"width=device-width,initial-scale=1\"/>\n<title>" =
      "<meta name=\"viewport\" content=\"width=device-width,initial-scale=1\"/>\n" ++ "<title>" := rfl
  exact Text.toList_of_eq_append ((congrArg _ hlast).trans String.append_assoc.symm)

theorem isClear_preamble : Text.isClear titleOpening preamble = true :=
  Text.isClear_append_toList (Text.isClear_toList rfl (by decide +kernel))
    (Text.isClear_toList rfl (by decide +kernel))

theorem exists_betweenTitleAndPane_eq :
    ∃ styles, betweenTitleAndPane = titleClosing ++ styles ∧ Text.isClear paneOpening styles = true := by
  have hfirst : "</title>\n<style>\n" = "</title>" ++ "\n<style>\n" := rfl
  have hsplit : ∃ styles, betweenTitleAndPane = titleClosing ++ styles := by
    unfold betweenTitleAndPane
    rw [hfirst]
    simp only [String.toList_append, List.append_assoc]
    exact ⟨_, rfl⟩
  obtain ⟨styles, hstyles⟩ := hsplit
  exact ⟨styles, hstyles, Text.isClear_of_append (hstyles ▸ isClear_betweenTitleAndPane)⟩

section

variable {page before title behind rest source between rest' code behind' : Text}

theorem parts?_of_cuts
    (ht : cutBetween? titleOpening titleClosing page = some (before, title, rest))
    (hs : cutBetween? paneOpening paneClosing rest = some (between, source, rest'))
    (hc : cutBetween? paneOpening paneClosing rest' = some (behind, code, behind')) :
    parts? page =
      some ⟨[before, between, behind, behind'], unescape title, unescape source, unescape code⟩ := by
  unfold parts?
  change (cutBetween? titleOpening titleClosing page).bind _ = _
  rw [ht]
  change (cutBetween? paneOpening paneClosing rest).bind _ = _
  rw [hs]
  change (cutBetween? paneOpening paneClosing rest').bind _ = _
  rw [hc]
  rfl

end

/-- The values are read back from a page, and what is cut away around them is the same on every page. -/
theorem exists_parts?_page :
    ∃ fixed, ∀ title source code,
      parts? (page title source code) = some ⟨fixed, title, source, code⟩ := by
  obtain ⟨styles, hstyles, hclear⟩ := exists_betweenTitleAndPane_eq
  refine ⟨[preamble, styles, betweenPanes, behindPanes], fun title source code => ?_⟩
  have hpage : page title source code =
      preamble ++ titleOpening ++ (escape title ++ titleClosing ++
        (styles ++ paneOpening ++ (escape source ++ paneClosing ++
          (betweenPanes ++ paneOpening ++ (escape code ++ paneClosing ++ behindPanes))))) := by
    rw [page_eq, opening_eq, hstyles]
    simp only [List.append_assoc]
  have htitle : Text.isClear titleClosing (escape title) = true :=
    Text.isClear_of_notMem (lt_notMem_escape title)
  have hinside (s : Text) : Text.isClear paneClosing (escape s) = true :=
    Text.isClear_of_notMem (lt_notMem_escape s)
  have hparts := parts?_of_cuts (cutBetween?_append isClear_preamble htitle _)
    (cutBetween?_append hclear (hinside source) _)
    (cutBetween?_append isClear_betweenPanes (hinside code) behindPanes)
  rw [unescape_escape, unescape_escape, unescape_escape] at hparts
  rw [hpage]
  exact hparts

theorem page_eq_page_iff {title source code title' source' code' : Text} :
    page title source code = page title' source' code' ↔
      title = title' ∧ source = source' ∧ code = code' := by
  constructor
  · intro h
    obtain ⟨fixed, hparts⟩ := exists_parts?_page
    have hsame := hparts title source code
    rw [h, hparts] at hsame
    obtain ⟨-, htitle, hsource, hcode⟩ := Parts.mk.inj (Option.some.inj hsame)
    exact ⟨htitle.symm, hsource.symm, hcode.symm⟩
  · rintro ⟨rfl, rfl, rfl⟩
    rfl

/-- A page shows its three values as they are, between the first tags of its title and of its two panes; all
else is the same on every page, and so are the tags. Pages are equal only when their values are. -/
theorem page_reads_back :
    (∃ fixed, ∀ title source code : Text,
      parts? (page title source code) = some ⟨fixed, title, source, code⟩) ∧
    (∀ title source code : Text,
      (pane? (page title source code) 0).map unescape = some source ∧
        (pane? (page title source code) 1).map unescape = some code ∧
        tags (page title source code) = tags (page [] [] [])) ∧
    ∀ title source code title' source' code' : Text,
      page title source code = page title' source' code' ↔
        title = title' ∧ source = source' ∧ code = code' := by
  refine ⟨exists_parts?_page, ?_, fun _ _ _ _ _ _ => page_eq_page_iff⟩
  intro title source code
  obtain ⟨hsource, hcode⟩ := pane?_page title source code
  refine ⟨?_, ?_, ?_⟩
  · rw [hsource, Option.map_some, unescape_escape]
  · rw [hcode, Option.map_some, unescape_escape]
  · rw [tags_page, tags_page]

end MarkupCode.Preview
