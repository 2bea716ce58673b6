import MarkupCode.Command.Settings

/-!
# Requests

A command line asks for help or for a command with its settings. Unknown flags are passed over until
the end: the complaint about them comes after all others, from the program itself, whichever command
they stand with.
-/

namespace MarkupCode

inductive Request
  | help (topic : Topic)
  | run (c : Command) (s : Settings)
  deriving DecidableEq, Repr

namespace Request

/-- The words behind a command, after those that were passed over before it. -/
def ofCommand (c : Command) (passed words : List Text) : Except UsageError Request := do
  let read ← (Word.ofTexts c.flags words >>= Settings.read {} []).mapError (⟨.command c, ·⟩)
  match read with
  | .help => return .help (.command c)
  | .settings s unused =>
    let missing := c.required.filter fun f => !s.isSet f
    if missing ≠ [] then throw ⟨.command c, .required missing⟩
    else if passed ++ unused ≠ [] then throw ⟨.program, .unrecognized (passed ++ unused)⟩
    else return .run c s

def ofWords (passed : List Text) : List (Text × Word) → Except UsageError Request
  | [] =>
    if passed = [] then .ok (.help .program) else .error ⟨.program, .unrecognized passed⟩
  | (w, word) :: rest =>
    match word with
    | .unknown => ofWords (passed ++ [w]) rest
    | .flag _ _ none => .ok (.help .program)
    | .flag f name (some value) =>
      ((Settings.carried f name value).mapError (⟨.program, ·⟩)).map fun _ => .help .program
    | .endMark =>
      if rest = [] then .error ⟨.program, .unrecognized (passed ++ [w])⟩
      else .error ⟨.program, .unknownCommand w⟩
    | .operand =>
      match Command.ofName? w with
      | some c => ofCommand c passed (rest.map Prod.fst)
      | none => .error ⟨.program, .unknownCommand w⟩

def ofArguments (arguments : List Text) : Except UsageError Request := do
  let words ← (Word.ofTexts Topic.program.flags arguments).mapError (⟨.program, ·⟩)
  ofWords [] words

end Request
end MarkupCode
