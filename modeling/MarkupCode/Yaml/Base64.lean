import MarkupCode.Text.Utf8

/-!
# Base sixty-four

Bytes written with sixty-four letters, four for three bytes. Other characters are skipped; two
padding marks in the right place, or one, end the data.
-/

namespace MarkupCode.Yaml.Base64

def value? (c : Char) : Option Nat :=
  if 'A' ≤ c ∧ c ≤ 'Z' then some (c.toNat - 'A'.toNat)
  else if 'a' ≤ c ∧ c ≤ 'z' then some (c.toNat - 'a'.toNat + 26)
  else if '0' ≤ c ∧ c ≤ '9' then some (c.toNat - '0'.toNat + 52)
  else if c = '+' then some 62
  else if c = '/' then some 63
  else none

/-- Decodes from a place within a group of four: `place` letters of the group were read and left
`bits` over, and `pads` padding marks stand right before. -/
def decodeFrom (place bits pads : Nat) : Text → Option Text.Bytes
  | [] => if place = 0 then some [] else none
  | c :: rest =>
    if c = '=' then
      if 2 ≤ place ∧ 4 ≤ place + pads + 1 then some []
      else decodeFrom place bits (if 2 ≤ place then pads + 1 else pads) rest
    else match value? c with
      | none => decodeFrom place bits pads rest
      | some v =>
        match place with
        | 0 => decodeFrom 1 v 0 rest
        | 1 => (decodeFrom 2 (v % 16) 0 rest).map (UInt8.ofNat (bits * 4 + v / 16) :: ·)
        | 2 => (decodeFrom 3 (v % 4) 0 rest).map (UInt8.ofNat (bits * 16 + v / 4) :: ·)
        | _ => (decodeFrom 0 0 0 rest).map (UInt8.ofNat (bits * 64 + v) :: ·)

def decode (s : Text) : Option Text.Bytes := decodeFrom 0 0 0 s

end MarkupCode.Yaml.Base64
