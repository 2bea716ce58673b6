import MarkupCode.Text.Interval

/-!
# UTF-8

`encode` writes the bytes of a text and `decode` reads them back. A character begins with a lead
byte, which fixes how many bytes follow it and which interval each lies in. Decoding stops at the
first fault and tells the bytes it concerns: a byte that cannot begin a character, bytes that are
not continued as their lead demands, or a character that the data leaves unfinished.
-/

namespace MarkupCode.Text

abbrev Bytes := List UInt8

inductive Utf8Fault
  | invalidStart
  | invalidContinuation
  | unexpectedEnd
  deriving DecidableEq, Repr

/-- A fault at the bytes from position `first` up to but not including `stop`; `byte` is the first
of them. -/
structure Utf8Error where
  fault : Utf8Fault
  byte : UInt8
  first : Nat
  stop : Nat
  deriving DecidableEq, Repr

/-- A character of which some bytes have been read: where it began, its bits so far, and the
intervals of the bytes it still needs. -/
structure Started where
  lead : UInt8
  first : Nat
  bits : Nat
  next : Interval
  later : List Interval

def tail : Interval := (0x80, 0xbf)

/-- What a lead byte beyond ASCII begins: its own bits, and the intervals of the bytes to come. -/
def lead? (b : Nat) : Option (Nat × Interval × List Interval) :=
  if b < 0xc2 then none
  else if b < 0xe0 then some (b - 0xc0, tail, [])
  else if b = 0xe0 then some (0, (0xa0, 0xbf), [tail])
  else if b = 0xed then some (b - 0xe0, (0x80, 0x9f), [tail])
  else if b < 0xf0 then some (b - 0xe0, tail, [tail])
  else if b = 0xf0 then some (0, (0x90, 0xbf), [tail, tail])
  else if b < 0xf4 then some (b - 0xf0, tail, [tail, tail])
  else if b = 0xf4 then some (b - 0xf0, (0x80, 0x8f), [tail, tail])
  else none

def decodeFrom (position : Nat) : Option Started → Bytes → Except Utf8Error Text
  | none, [] => .ok []
  | some s, [] => .error ⟨.unexpectedEnd, s.lead, s.first, position⟩
  | none, b :: rest =>
    if b.toNat < 0x80 then
      (decodeFrom (position + 1) none rest).map (Char.ofNat b.toNat :: ·)
    else match lead? b.toNat with
      | none => .error ⟨.invalidStart, b, position, position + 1⟩
      | some (bits, next, later) =>
        decodeFrom (position + 1) (some ⟨b, position, bits, next, later⟩) rest
  | some s, b :: rest =>
    if s.next.contains b.toNat then
      let bits := s.bits * 64 + (b.toNat - 0x80)
      match s.later with
      | [] => (decodeFrom (position + 1) none rest).map (Char.ofNat bits :: ·)
      | next :: later =>
        decodeFrom (position + 1) (some { s with bits, next, later }) rest
    else .error ⟨.invalidContinuation, s.lead, s.first, position⟩

def decode (bytes : Bytes) : Except Utf8Error Text := decodeFrom 0 none bytes

def encode (s : Text) : Bytes := s.flatMap String.utf8EncodeChar

def Utf8Fault.reason : Utf8Fault → String
  | .invalidStart => "invalid start byte"
  | .invalidContinuation => "invalid continuation byte"
  | .unexpectedEnd => "unexpected end of data"

def hexByte (b : UInt8) : String :=
  String.ofList [Nat.digitChar (b.toNat / 16), Nat.digitChar (b.toNat % 16)]

def Utf8Error.message (e : Utf8Error) : String :=
  let place :=
    if e.stop = e.first + 1 then "byte 0x" ++ hexByte e.byte ++ " in position " ++ toString e.first
    else "bytes in position " ++ toString e.first ++ "-" ++ toString (e.stop - 1)
  "'utf-8' codec can't decode " ++ place ++ ": " ++ e.fault.reason

end MarkupCode.Text
