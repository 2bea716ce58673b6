import MarkupCode.Text.Interval

/-!
# Preview pages

A preview shows a page's markup beside its code. The page is fixed but for three values, the title,
the markup and the code. Five characters are escaped in them, so no value can add to the page's
markup.
-/

namespace MarkupCode.Preview

def escapeChar (c : Char) : Text :=
  if c = '&' then "&amp;".toList
  else if c = '<' then "&lt;".toList
  else if c = '>' then "&gt;".toList
  else if c = '\'' then "&#39;".toList
  else if c = '"' then "&#34;".toList
  else [c]

def escape (s : Text) : Text := s.flatMap escapeChar

def opening : Text :=
  ("<!DOCTYPE html>\n<html lang=\"en\">\n<head>\n<meta charset=\"utf-8\"/>\n" ++
    "<meta name=\"viewport\" content=\"width=device-width,initial-scale=1\"/>\n<title>").toList

def betweenTitleAndSource : Text :=
  ("</title>\n<style>\n" ++
    "body \x7b font-family: sans-serif; margin: 0; display: flex; gap: 1em; padding: 1em; \x7d\n" ++
    "section \x7b flex: 1; min-width: 0; \x7d\n" ++
    "pre \x7b background: #f5f5f5; padding: 1em; overflow: auto; \x7d\n" ++
    "</style>\n</head>\n<body>\n<section id=\"source\">\n<h2>HTML</h2>\n<pre>").toList

def betweenSourceAndCode : Text :=
  "</pre>\n</section>\n<section id=\"target\">\n<h2>Falco.Markup</h2>\n<pre>".toList

def closing : Text := "</pre>\n</section>\n</body>\n</html>\n".toList

def defaultTitle : Text := "falcogen preview".toList

def page (title source code : Text) : Text :=
  opening ++ escape title ++ betweenTitleAndSource ++ escape source ++ betweenSourceAndCode ++
    escape code ++ closing

/-- An escaped text holds no angle bracket. -/
theorem lt_notMem_escape (s : Text) : '<' ∉ escape s := by
  intro h
  obtain ⟨c, _, hc⟩ := List.mem_flatMap.1 h
  unfold escapeChar at hc
  repeat' split at hc
  any_goals simp at hc
  exact absurd hc.symm (by assumption)

end MarkupCode.Preview
