/-!
# Binary floating-point numbers

A finite number of 64 bits is a sign, a significand below `2 ^ 53` and an exponent from -1074 to 971;
the significand is at least `2 ^ 52` unless the exponent is the least one. Every operation is exact
arithmetic on integers followed by one rounding to the nearest such number, of two the one with the
even significand.
-/

namespace MarkupCode

inductive Binary64
  | finite (negative : Bool) (significand : Nat) (exponent : Int)
  | infinity (negative : Bool)
  | nan
  deriving DecidableEq, Repr

namespace Binary64

def leastExponent : Int := -1074

def zero (negative : Bool) : Binary64 := finite negative 0 leastExponent

/-- The integer nearest to a quotient; a half goes to the even neighbour. -/
def roundQuotient (num den : Nat) : Nat :=
  let q := num / den
  let r := num % den
  if 2 * r < den ∨ (2 * r = den ∧ q % 2 = 0) then q else q + 1

/-- A number with its power of a base moved into a numerator and a denominator. -/
def ratio (n : Nat) (base : Nat) (exponent : Int) : Nat × Nat :=
  if 0 ≤ exponent then (n * base.pow exponent.toNat, 1) else (n, base.pow (-exponent).toNat)

def ofRatio (negative : Bool) (num den : Nat) : Binary64 :=
  if num = 0 then zero negative
  else
    let scaled (e : Int) : Nat × Nat := let (p, q) := ratio 1 2 e; (num * q, den * p)
    let low : Int := (Nat.log2 num : Int) - (Nat.log2 den : Int) - 53
    let (n, d) := scaled low
    let e := max leastExponent (if Nat.pow 2 53 * d ≤ n then low + 1 else low)
    let (n, d) := scaled e
    let m := roundQuotient n d
    let (m, e) := if m = Nat.pow 2 53 then (Nat.pow 2 52, e + 1) else (m, e)
    if e > 971 then infinity negative else finite negative m e

/-- The number nearest to `digits * 10 ^ exponent`. Exponents far outside the range give an infinity
or a zero without any power being taken. -/
def ofDecimal (negative : Bool) (digits : Nat) (exponent : Int) : Binary64 :=
  let top : Int := (Nat.toDigits 10 digits).length + exponent
  if digits = 0 ∨ top < -330 then zero negative
  else if top > 310 then infinity negative
  else
    let (num, den) := ratio digits 10 exponent
    ofRatio negative num den

def neg : Binary64 → Binary64
  | finite s m e => finite (!s) m e
  | infinity s => infinity (!s)
  | nan => nan

def isZero : Binary64 → Bool
  | finite _ m _ => m = 0
  | _ => false

def isNegative : Binary64 → Bool
  | finite s _ _ => s
  | infinity s => s
  | nan => false

def mul (x y : Binary64) : Binary64 :=
  let sign := x.isNegative != y.isNegative
  match x, y with
  | nan, _ | _, nan => nan
  | finite _ m e, finite _ m' e' =>
    let (num, den) := ratio (m * m') 2 (e + e')
    ofRatio sign num den
  | _, _ => if x.isZero || y.isZero then nan else infinity sign

def add (x y : Binary64) : Binary64 :=
  match x, y with
  | nan, _ | _, nan => nan
  | infinity s, infinity t => if s = t then infinity s else nan
  | infinity s, finite _ _ _ => infinity s
  | finite _ _ _, infinity t => infinity t
  | finite s m e, finite t m' e' =>
    let least := min e e'
    let part (negative : Bool) (n : Nat) (exponent : Int) : Int :=
      let scaled : Int := n * Int.pow 2 (exponent - least).toNat
      if negative then -scaled else scaled
    let sum := part s m e + part t m' e'
    if sum = 0 then zero (s && t)
    else
      let (num, den) := ratio sum.natAbs 2 least
      ofRatio (sum < 0) num den

/-- The nearest number to an integer; none when it is too large for a finite one. -/
def ofInt? (n : Int) : Option Binary64 :=
  match ofRatio (n < 0) n.natAbs 1 with
  | finite s m e => some (finite s m e)
  | _ => none

def toInt? : Binary64 → Option Int
  | finite s m e =>
    let (num, den) := ratio m 2 e
    if num % den = 0 then some (if s then -((num / den : Nat) : Int) else (num / den : Nat))
    else none
  | _ => none

end Binary64
end MarkupCode
