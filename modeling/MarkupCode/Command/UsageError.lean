import MarkupCode.Command.Manual
import MarkupCode.Text.Quoted

/-!
# Complaints about a command line

A command line that cannot be followed is refused with the usage of the program or of the command that
complains, and the cause.
-/

namespace MarkupCode

inductive UsageFault
  | valueExpected (f : Flag)
  | valueIgnored (f : Flag) (value : Text)
  | ambiguous (word : Text) (candidates : List Text)
  | notInteger (f : Flag) (value : Text)
  | required (flags : List Flag)
  | unknownCommand (word : Text)
  | unrecognized (words : List Text)
  deriving DecidableEq, Repr

def aboutFlag (f : Flag) (complaint : Text) : Text :=
  "argument ".toList ++ f.label ++ ": ".toList ++ complaint

def UsageFault.message : UsageFault → Text
  | valueExpected f => aboutFlag f "expected one argument".toList
  | valueIgnored f value =>
    aboutFlag f ("ignored explicit argument ".toList ++ Text.quoted value)
  | ambiguous word candidates =>
    "ambiguous option: ".toList ++ word ++ " could match ".toList ++
      ", ".toList.intercalate candidates
  | notInteger f value => aboutFlag f ("invalid int value: ".toList ++ Text.quoted value)
  | required flags =>
    "the following arguments are required: ".toList ++
      ", ".toList.intercalate (flags.map Flag.label)
  | unknownCommand word =>
    "argument command: invalid choice: ".toList ++ Text.quoted word ++
      " (choose from 'convert', 'preview')".toList
  | unrecognized words =>
    "unrecognized arguments: ".toList ++ [' '].intercalate words

structure UsageError where
  topic : Topic
  fault : UsageFault
  deriving DecidableEq, Repr

def UsageError.message (e : UsageError) : Text :=
  e.topic.usage ++ e.topic.title ++ ": error: ".toList ++ e.fault.message ++ ['\n']

end MarkupCode
