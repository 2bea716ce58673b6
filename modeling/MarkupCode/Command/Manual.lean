import MarkupCode.Command.Flag

/-!
# Usage and help

Each topic has a usage summary, which also precedes the complaints about a command line, and a help
text, which begins with it.
-/

namespace MarkupCode.Topic

def usage : Topic → Text
  | program => "usage: falcogen [-h] \x7bconvert,preview\x7d ...\n".toList
  | command .convert =>
    ("usage: falcogen convert [-h] [--input INPUT] [--out OUT] [--config CONFIG]\n" ++
      "                        [--indent INDENT] [--body-only] [--force]\n").toList
  | command .preview =>
    ("usage: falcogen preview [-h] --input INPUT --out OUT [--title TITLE]\n" ++
      "                        [--config CONFIG] [--indent INDENT] [--body-only]\n" ++
      "                        [--force]\n").toList

def sharedFlags : String :=
  "  --config CONFIG  YAML file with converter options.\n" ++
  "  --indent INDENT  Spaces per nesting level (overrides indent_size from\n" ++
  "                   --config).\n" ++
  "  --body-only      Emit only the children of <body> when the document has one.\n" ++
  "  --force          Overwrite the output file if it exists.\n"

def explanation : Topic → Text
  | program =>
    ("\nConvert HTML markup to Falco.Markup F# code.\n" ++
      "\npositional arguments:\n" ++
      "  \x7bconvert,preview\x7d\n" ++
      "    convert          Convert an HTML file to Falco.Markup.\n" ++
      "    preview          Write an HTML page showing the input next to the\n" ++
      "                     generated code.\n" ++
      "\noptions:\n" ++
      "  -h, --help         show this help message and exit\n").toList
  | command .convert =>
    ("\nRead HTML from a file or stdin and print the generated code.\n" ++
      "\noptions:\n" ++
      "  -h, --help       show this help message and exit\n" ++
      "  --input INPUT    Input HTML file (default: stdin, or '-').\n" ++
      "  --out OUT        Write the code to this file instead of stdout.\n" ++
      sharedFlags).toList
  | command .preview =>
    ("\noptions:\n" ++
      "  -h, --help       show this help message and exit\n" ++
      "  --input INPUT    Input HTML file.\n" ++
      "  --out OUT        Output HTML file for the preview.\n" ++
      "  --title TITLE    Page title (default: input file name).\n" ++
      sharedFlags).toList

def help (t : Topic) : Text := t.usage ++ t.explanation

end MarkupCode.Topic
