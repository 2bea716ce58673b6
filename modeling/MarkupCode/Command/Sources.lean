import MarkupCode.Command.Product

/-!
# What a command line reads

A command reads the file of its configuration, if it names one, and its input, which is a file unless it is
standard input. `successes` counts the runs of a row of calls that succeed, each in the tree that the one
before leaves.
-/

namespace MarkupCode

namespace Request

def config? : Request → Option Path
  | .help _ => none
  | .run _ s => (Given.text? s.config).map .ofText

def input? : Request → Option Path
  | .help _ => none
  | .run .convert s => (Given.text? s.input).map .ofText
  | .run .preview s => (Command.pathOf s.input).toOption

def sources (r : Request) : List Path :=
  r.config?.toList ++ if Command.readsStandardInput r.input? then [] else r.input?.toList

end Request

def CommandLine.sources (arguments : List Text) : List Path :=
  ((request? arguments).map Request.sources).getD []

def successes (t : FileTree) : List Call → Nat
  | [] => 0
  | (standardInput, arguments) :: calls =>
    let report := run t standardInput arguments
    (if report.ending = .success then 1 else 0) + successes report.tree calls

end MarkupCode
