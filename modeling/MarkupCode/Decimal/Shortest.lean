import MarkupCode.Decimal.Binary64
import MarkupCode.Text.Digit

/-!
# Shortest decimals

A binary floating-point number is written with the fewest decimal digits that read back as the
number, and of those with the ones nearest to it. The numbers that read back fill an interval around
it, ends included when its significand is even. On the grid of `k` digits only the two neighbours of
the number have to be tried: if any grid point lies in the interval, one of them does.
-/

namespace MarkupCode.Binary64

def timesTen (m : Nat) (e : Int) (power : Int) : Nat × Nat :=
  let (n, d) := ratio m 2 e
  let (n', d') := ratio 1 10 power
  (n * n', d * d')

def leadingExponent (m : Nat) (e : Int) : Int :=
  let (n, d) := timesTen m e 324
  ((Nat.toDigits 10 (n / d)).length : Int) - 325

def readsBack (m : Nat) (e : Int) (c : Nat) (q : Int) : Bool :=
  let low := 4 * m - (if m = Nat.pow 2 52 ∧ e ≠ leastExponent then 1 else 2)
  let high := 4 * m + 2
  let (n, d) := ratio c 10 q
  let (l, ld) := ratio low 2 (e - 2)
  let (h, hd) := ratio high 2 (e - 2)
  if m % 2 = 0 then l * d ≤ n * ld && n * hd ≤ h * d else l * d < n * ld && n * hd < h * d

/-- The point of the grid with unit `10 ^ q` that stands for `m * 2 ^ e`, if one reads back. -/
def gridPoint? (m : Nat) (e : Int) (q : Int) : Option Nat :=
  let (n, d) := timesTen m e (-q)
  let below := n / d
  let nearest := roundQuotient n d
  let farther := if nearest = below then below + 1 else below
  if readsBack m e nearest q then some nearest
  else if readsBack m e farther q then some farther
  else none

/-- Tries grids of one digit more each time, from the unit `10 ^ q` down. -/
def shortestFrom (m : Nat) (e : Int) (q : Int) : Nat → Nat × Int
  | 0 => (m, e)
  | tries + 1 =>
    match gridPoint? m e q with
    | some c => (c, q)
    | none => shortestFrom m e (q - 1) tries

/-- The shortest decimal of `m * 2 ^ e`, for positive `m`: digits and the exponent of ten of the last
one. Seventeen digits always suffice. -/
def shortest (m : Nat) (e : Int) : Nat × Int := shortestFrom m e (leadingExponent m e) 17

/-- The position of the decimal point relative to the first digit decides the notation: from four
places before to sixteen places behind it the point is written, with at least one digit on each
side, and beyond that an exponent of at least two digits. -/
def digitsText (digits : Text) (point : Int) : Text :=
  let zeros (n : Int) : Text := List.replicate n.toNat '0'
  if -4 < point ∧ point ≤ 0 then "0.".toList ++ zeros (-point) ++ digits
  else if 0 < point ∧ point < digits.length then
    digits.take point.toNat ++ '.' :: digits.drop point.toNat
  else if 0 < point ∧ point ≤ 16 then digits ++ zeros (point - digits.length) ++ ".0".toList
  else
    let exponent := Text.numeral (point - 1).natAbs
    let fraction : Text := if digits.length = 1 then [] else '.' :: digits.drop 1
    digits.take 1 ++ fraction ++ 'e' :: (if point - 1 < 0 then '-' else '+') ::
      zeros (2 - exponent.length) ++ exponent

def toText : Binary64 → Text
  | nan => "nan".toList
  | infinity s => if s then "-inf".toList else "inf".toList
  | finite s m e =>
    let sign : Text := if s then ['-'] else []
    if m = 0 then sign ++ "0.0".toList
    else
      let (c, q) := shortest m e
      let digits := Text.numeral c
      let significant := (digits.reverse.dropWhile (· = '0')).reverse
      sign ++ digitsText significant (q + digits.length)

end MarkupCode.Binary64
