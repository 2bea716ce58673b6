import MarkupCode.Command.UsageError
import MarkupCode.Text.Digit

/-!
# Words of a command line

A word that begins with a hyphen names a flag, in full or by a beginning that no other flag shares,
and may carry a value behind an equals sign. Negative numbers, words with a space and a hyphen alone
are no flags. Two hyphens alone are the end mark: no word behind it names a flag.
-/

namespace MarkupCode

inductive Word
  | operand
  | endMark
  | flag (f : Flag) (name : Text) (attached : Option Text)
  | unknown
  deriving DecidableEq, Repr

namespace Word

def hyphens : Text := ['-', '-']

/-- A number with a minus sign; a line feed may end it. -/
def isNegativeNumber (s : Text) : Bool :=
  let body := if s.getLast? = some '\n' then s.dropLast else s
  let isDigit (c : Char) : Bool := (Text.decimalValue? c).isSome
  match body with
  | '-' :: digits =>
    match digits.dropWhile isDigit with
    | [] => digits ≠ []
    | '.' :: decimals => decimals ≠ [] && decimals.all isDigit
    | _ => false
  | _ => false

def namesOf (flags : List Flag) : List (Flag × Text) :=
  flags.flatMap fun f => f.names.map (f, ·)

/-- A word before its first equals sign, and what is behind that sign. -/
def splitValue (w : Text) : Text × Option Text :=
  match w.dropWhile (· ≠ '=') with
  | [] => (w, none)
  | _ :: value => (w.takeWhile (· ≠ '='), some value)

/-- The flags that a word may abbreviate. A name of one hyphen and a letter is one when the word
begins with it; what follows is then its value. -/
def abbreviated (flags : List Flag) (w : Text) : List (Flag × Text × Option Text) :=
  if hyphens <+: w then
    let (beginning, value) := splitValue w
    (namesOf flags).filterMap fun (f, name) =>
      if beginning <+: name then some (f, name, value) else none
  else
    (namesOf flags).filterMap fun (f, name) =>
      if name = w.take 2 then some (f, name, some (w.drop 2)) else none

def named? (flags : List Flag) (name : Text) : Option Flag :=
  ((namesOf flags).find? (·.2 = name)).map Prod.fst

def inFull? (flags : List Flag) (w : Text) : Option Word :=
  match named? flags w with
  | some f => some (.flag f w none)
  | none => match splitValue w with
    | (_, none) => none
    | (name, some value) => (named? flags name).map (.flag · name (some value))

def ofText (flags : List Flag) (w : Text) : Except UsageFault Word :=
  if w.head? ≠ some '-' ∨ w.length = 1 then .ok .operand
  else match inFull? flags w with
    | some word => .ok word
    | none => match abbreviated flags w with
      | [(f, name, value)] => .ok (.flag f name value)
      | [] => .ok (if isNegativeNumber w || w.contains ' ' then .operand else .unknown)
      | several => .error (.ambiguous w (several.map (·.2.1)))

def ofTexts (flags : List Flag) : List Text → Except UsageFault (List (Text × Word))
  | [] => .ok []
  | w :: rest =>
    if w = hyphens then .ok ((w, .endMark) :: rest.map (·, .operand))
    else do
      let word ← ofText flags w
      let words ← ofTexts flags rest
      return (w, word) :: words

end Word
end MarkupCode
