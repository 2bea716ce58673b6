import MarkupCode.Text.Digit
import MarkupCode.Yaml.Error

/-!
# Dates and times

The notation of a date, with a time of day and an offset behind it or without, and the value it
denotes when every part of it is in range.
-/

namespace MarkupCode.Yaml

/-- The offset behind a time: none, or minutes east. -/
abbrev Offset := Option Int

structure TimeOfDay where
  hour : Nat
  minute : Nat
  second : Nat
  micro : Nat
  offset : Offset
  deriving DecidableEq, Repr

/-- A date as written; `padded` holds when month and day have two digits each. -/
structure Stamp where
  year : Nat
  month : Nat
  day : Nat
  padded : Bool
  time : Option TimeOfDay
  deriving DecidableEq, Repr

namespace Stamp

/-- A number of at least `least` and at most `most` digits at the head of a text: its value, the
count of its digits and what follows. -/
def number? (least most : Nat) (s : Text) : Option (Nat × Nat × Text) :=
  let digits := (s.take most).takeWhile Text.isAsciiDigit
  if digits.length < least then none
  else some (Text.numeralValue 10 digits, digits.length, s.drop digits.length)

def mark? (cs : List Char) : Text → Option Text
  | c :: rest => if c ∈ cs then some rest else none
  | [] => none

def isGap (c : Char) : Bool := c = ' ' || c = '\t'

def offset? (s : Text) : Option Offset := do
  if s = [] then return none
  match s.dropWhile isGap with
  | ['Z'] => return some 0
  | c :: rest =>
    if c ≠ '+' ∧ c ≠ '-' then none
    else
      let (hours, _, rest) ← number? 1 2 rest
      let minutes : Nat ← match rest with
        | [] => pure 0
        | _ => do
          let (m, _, rest) ← number? 2 2 (← mark? [':'] rest)
          if rest = [] then pure m else none
      let total : Int := hours * 60 + minutes
      return some (if c = '-' then -total else total)
  | [] => none

def microseconds (digits : Text) : Nat :=
  Text.numeralValue 10 ((digits ++ List.replicate 6 '0').take 6)

def time? (s : Text) : Option TimeOfDay := do
  let s ← match s with
    | c :: rest =>
      if c = 'T' ∨ c = 't' then pure rest
      else if isGap c then pure (s.dropWhile isGap) else none
    | [] => none
  let (hour, _, s) ← number? 1 2 s
  let (minute, _, s) ← number? 2 2 (← mark? [':'] s)
  let (second, _, s) ← number? 2 2 (← mark? [':'] s)
  match s with
  | '.' :: rest =>
    let fraction := rest.takeWhile Text.isAsciiDigit
    let offset ← offset? (rest.dropWhile Text.isAsciiDigit)
    return ⟨hour, minute, second, microseconds fraction, offset⟩
  | _ => return ⟨hour, minute, second, 0, ← offset? s⟩

def ofLine? (s : Text) : Option Stamp := do
  let (year, _, s) ← number? 4 4 s
  let (month, monthDigits, s) ← number? 1 2 (← mark? ['-'] s)
  let (day, dayDigits, s) ← number? 1 2 (← mark? ['-'] s)
  let padded := monthDigits = 2 && dayDigits = 2
  if s = [] then return ⟨year, month, day, padded, none⟩
  else return ⟨year, month, day, padded, some (← time? s)⟩

def dropFinalBreak (s : Text) : Text := if s.getLast? = some '\n' then s.dropLast else s

def ofText? (s : Text) : Option Stamp := ofLine? (dropFinalBreak s)

def isLeap (year : Nat) : Bool := year % 4 = 0 && (year % 100 ≠ 0 || year % 400 = 0)

def daysInMonth (year month : Nat) : Nat :=
  if month = 2 then (if isLeap year then 29 else 28)
  else if month ∈ [4, 6, 9, 11] then 30
  else 31

def checkDate (d : Stamp) : Except DateFault Unit :=
  if d.year = 0 then .error .year
  else if d.month = 0 ∨ 12 < d.month then .error .month
  else if d.day = 0 ∨ daysInMonth d.year d.month < d.day then .error .day
  else .ok ()

def checkTime (t : TimeOfDay) : Except DateFault Unit :=
  if 24 ≤ t.hour then .error .hour
  else if 60 ≤ t.minute then .error .minute
  else if 60 ≤ t.second then .error .second
  else .ok ()

def checkOffset (t : TimeOfDay) : Except DateFault Unit :=
  match t.offset with
  | some minutes => if minutes.natAbs < 1440 then .ok () else .error (.offset minutes)
  | none => .ok ()

/-- The first part that is out of range; an offset is looked at first. -/
def check (d : Stamp) : Except DateFault Unit :=
  match d.time with
  | none => d.checkDate
  | some t => do
    checkOffset t
    d.checkDate
    checkTime t

def dayNumber (d : Stamp) : Nat :=
  let y := d.year - 1
  let before := (List.range (d.month - 1)).foldl (fun days m => days + daysInMonth d.year (m + 1)) 0
  y * 365 + y / 4 - y / 100 + y / 400 + before + d.day

/-- The microseconds from the beginning of the calendar, the offset taken off. -/
def instant (d : Stamp) (t : TimeOfDay) : Int :=
  let seconds : Int := d.dayNumber * 86400 + t.hour * 3600 + t.minute * 60 + t.second
  (seconds - t.offset.getD 0 * 60) * 1000000 + t.micro

/-- Dates without a time are equal by their parts, and times by the instant that they denote; a time
with an offset differs from every time without one. -/
def sameAs (d d' : Stamp) : Bool :=
  match d.time, d'.time with
  | none, none => d.dayNumber = d'.dayNumber
  | some t, some t' =>
    t.offset.isSome = t'.offset.isSome && d.instant t = d'.instant t'
  | _, _ => false

def shown (d : Stamp) : String :=
  let date := [d.year, d.month, d.day]
  match d.time with
  | none => "datetime.date(" ++ ", ".intercalate (date.map toString) ++ ")"
  | some t =>
    let parts := date ++ [t.hour, t.minute] ++
      (if t.micro ≠ 0 then [t.second, t.micro] else if t.second ≠ 0 then [t.second] else [])
    let zone := match t.offset with
      | none => []
      | some 0 => ["tzinfo=datetime.timezone.utc"]
      | some minutes => ["tzinfo=datetime.timezone(" ++ spanText minutes ++ ")"]
    "datetime.datetime(" ++ ", ".intercalate (parts.map toString ++ zone) ++ ")"

end Stamp
end MarkupCode.Yaml
