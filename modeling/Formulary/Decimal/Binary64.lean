import Formulary.Decimal.Power
/-!
# Binary floating-point numbers of 64 bits

A finite number is a significand times a power of two. The module takes numbers apart, builds the
nearest number to a fraction, ties going to the even significand, and from these gives the exact
remainder and the integral part.
-/

set_option autoImplicit false
namespace Formulary.Binary64

/-- What the bits of a number mean; the value of `finite` is the significand times two to the power
of the exponent, and the exponent is least among those with a significand below `2 ^ 53`. -/
inductive Shape where
  | nan
  | infinite (negative : Bool)
  | finite (negative : Bool) (significand : Nat) (exponent : Int)
  deriving DecidableEq, Repr

/-- Reads a number of 64 bits. -/
def Shape.ofBits (bits : Nat) : Shape :=
  let negative : Bool := twoTo 63 ≤ bits
  let field : Nat := bits / twoTo 52 % twoTo 11
  let fraction : Nat := bits % twoTo 52
  if field = 2047 then
    if fraction = 0 then .infinite negative else .nan
  else if field = 0 then .finite negative fraction (-1074)
  else .finite negative (fraction + twoTo 52) ((field : Int) - 1075)

def shape (x : Float) : Shape := Shape.ofBits x.toBits.toNat

/-- The quotient rounded to the nearest integer, a half to the even one. -/
def roundQuotient (num den : Nat) : Nat :=
  let q := num / den
  let r := num % den
  if den < 2 * r ∨ (2 * r = den ∧ q % 2 = 1) then q + 1 else q

/-- The numerator and denominator of `num / den` divided by two to the power `e`. -/
def scaled (num den : Nat) (e : Int) : Nat × Nat :=
  (num * twoTo (-e).toNat, den * twoTo e.toNat)

/-- The exponent that gives `num / den` a significand of 53 bits, but not below the least one. -/
def fittingExponent (num den : Nat) : Int :=
  let e : Int := (num.log2 : Int) - den.log2 - 52
  let s := scaled num den e
  max (if s.1 < twoTo 52 * s.2 then e - 1 else e) (-1074)

/-- Bits of the nonnegative number nearest to `num / den`; those of infinity when it is too large. -/
def nearestBits (num den : Nat) : Nat :=
  if num = 0 then 0
  else
    let e := fittingExponent num den
    let s := scaled num den e
    let m := roundQuotient s.1 s.2
    let bits := m + (e + 1074).toNat * twoTo 52
    min bits (2047 * twoTo 52)

/-- The number nearest to a fraction, with a sign. -/
def nearest (negative : Bool) (num den : Nat) : Float :=
  Float.ofBits (UInt64.ofNat (nearestBits num den + if negative then twoTo 63 else 0))

/-- The number nearest to an integer. -/
def ofInt (n : Int) : Float := nearest (n < 0) n.natAbs 1

def nan : Float := 0.0 / 0.0
def infinity : Float := 1.0 / 0.0

def isInfinite (x : Float) : Bool :=
  match shape x with
  | .infinite _ => true
  | _ => false

def isFinite (x : Float) : Bool :=
  match shape x with
  | .finite .. => true
  | _ => false

/-- The fraction cut off; a number that is not finite has none. -/
def truncate? (x : Float) : Option Int :=
  match shape x with
  | .finite negative m e =>
    let n : Nat := m * twoTo e.toNat / twoTo (-e).toNat
    some (if negative then -(n : Int) else n)
  | _ => none

/-- Whether the number is finite and has no fraction. -/
def isIntegral (x : Float) : Bool :=
  match shape x with
  | .finite _ m e => m * twoTo e.toNat % twoTo (-e).toNat = 0
  | _ => false

/-- The remainder of the division whose quotient is cut to an integer; it is exact and has the sign
of the dividend. There is none for an infinite dividend or a divisor that is zero. -/
def remainder (x y : Float) : Float :=
  match shape x, shape y with
  | .finite negative mx ex, .finite _ my ey =>
    if my = 0 then nan
    else
      let e := min ex ey
      let r := mx * twoTo (ex - e).toNat % (my * twoTo (ey - e).toNat)
      nearest negative (r * twoTo e.toNat) (twoTo (-e).toNat)
  | .finite .., .infinite _ => x
  | _, _ => nan

end Formulary.Binary64
