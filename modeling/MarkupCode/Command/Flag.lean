import MarkupCode.Text.Interval

/-!
# Commands and flags

There are two commands, each with flags of its own. A flag is a switch or takes a value, and goes by
one or more names. Help may be asked for on a command or on the program as a whole.
-/

namespace MarkupCode

inductive Command
  | convert
  | preview
  deriving DecidableEq, Repr

inductive Flag
  | help
  | input
  | out
  | title
  | config
  | indent
  | bodyOnly
  | force
  deriving DecidableEq, Repr

namespace Flag

def names : Flag → List Text
  | help => ["-h".toList, "--help".toList]
  | input => ["--input".toList]
  | out => ["--out".toList]
  | title => ["--title".toList]
  | config => ["--config".toList]
  | indent => ["--indent".toList]
  | bodyOnly => ["--body-only".toList]
  | force => ["--force".toList]

def takesValue : Flag → Bool
  | help | bodyOnly | force => false
  | input | out | title | config | indent => true

def label (f : Flag) : Text := ['/'].intercalate f.names

end Flag

namespace Command

def name : Command → Text
  | convert => "convert".toList
  | preview => "preview".toList

def ofName? (s : Text) : Option Command := [convert, preview].find? (·.name = s)

def flags : Command → List Flag
  | convert => [.help, .input, .out, .config, .indent, .bodyOnly, .force]
  | preview => [.help, .input, .out, .title, .config, .indent, .bodyOnly, .force]

def required : Command → List Flag
  | convert => []
  | preview => [.input, .out]

end Command

inductive Topic
  | program
  | command (c : Command)
  deriving DecidableEq, Repr

namespace Topic

def flags : Topic → List Flag
  | program => [.help]
  | command c => c.flags

def title : Topic → Text
  | program => "falcogen".toList
  | command c => "falcogen ".toList ++ c.name

end Topic
end MarkupCode
