import MarkupCode.Command.Word
import MarkupCode.Text.Numeral

/-!
# Settings

The words behind a command set its flags from left to right, so that of repeated flags the last one
counts. Words that set nothing are kept for a complaint. Help is given as soon as it is asked for.
-/

namespace MarkupCode

/-- What a flag was given: a value, or the end mark, which stands for no value at all. -/
inductive Given (α : Type)
  | value (a : α)
  | nothing
  deriving DecidableEq, Repr

structure Settings where
  input : Option (Given Text) := none
  out : Option (Given Text) := none
  title : Option (Given Text) := none
  config : Option (Given Text) := none
  indent : Option (Given Int) := none
  bodyOnly : Bool := false
  force : Bool := false
  deriving DecidableEq, Repr

def Given.text? (g : Option (Given Text)) : Option Text :=
  match g with
  | some (.value (c :: s)) => some (c :: s)
  | _ => none

def Given.ofText (s : Text) : Given Text := if s = Word.hyphens then .nothing else .value s

def Given.integer (f : Flag) (s : Text) : Except UsageFault (Given Int) :=
  if s = Word.hyphens then .ok .nothing
  else match Text.readInteger 10 s with
    | .ok n => .ok (.value n)
    | .error _ => .error (.notInteger f s)

namespace Settings

/-- Sets a flag to a value; for a switch the value says nothing. -/
def set (s : Settings) (f : Flag) (value : Text) : Except UsageFault Settings :=
  match f with
  | .help => .ok s
  | .input => .ok { s with input := some (.ofText value) }
  | .out => .ok { s with out := some (.ofText value) }
  | .title => .ok { s with title := some (.ofText value) }
  | .config => .ok { s with config := some (.ofText value) }
  | .indent => (Given.integer f value).map fun n => { s with indent := some n }
  | .bodyOnly => .ok { s with bodyOnly := true }
  | .force => .ok { s with force := true }

def isSet (s : Settings) : Flag → Bool
  | .help => false
  | .input => s.input.isSome
  | .out => s.out.isSome
  | .title => s.title.isSome
  | .config => s.config.isSome
  | .indent => s.indent.isSome
  | .bodyOnly => s.bodyOnly
  | .force => s.force

/-- A switch that carries a value is refused, but for letters that repeat its own short name. -/
def carried (f : Flag) (name value : Text) : Except UsageFault Unit :=
  if Word.hyphens <+: name ∨ value = [] then .error (.valueIgnored f value)
  else match value.dropWhile (some · = name[1]?) with
    | [] => .ok ()
    | rest => .error (.valueIgnored f rest)

inductive Reading
  | help
  | settings (s : Settings) (unused : List Text)

def read (s : Settings) (unused : List Text) : List (Text × Word) → Except UsageFault Reading
  | [] => .ok (.settings s unused)
  | (w, word) :: rest =>
    match word with
    | .operand | .endMark | .unknown => read s (unused ++ [w]) rest
    | .flag f name (some value) =>
      if f.takesValue then do read (← s.set f value) unused rest
      else do
        carried f name value
        if f = .help then .ok .help else read (← s.set f []) unused rest
    | .flag f _ none =>
      if f = .help then .ok .help
      else if f.takesValue then
        match rest with
        | (value, .operand) :: rest => do read (← s.set f value) unused rest
        | _ => .error (.valueExpected f)
      else do read (← s.set f []) unused rest

end Settings
end MarkupCode
