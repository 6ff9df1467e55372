import Formulary.Decimal.Binary64
/-!
# The shortest decimal of a number

A finite number is written with the fewest decimal digits that read back as the same number, and
among these with the digits nearest to its value. The search tries ever finer decimal grids; on each
it looks at the two neighbours of the value, and the first grid with a neighbour that reads back
wins.
-/

set_option autoImplicit false
namespace Formulary.Decimal

/-- A decimal: the digits as an integer, times a power of ten. -/
structure Scaled where
  digits : Nat
  exponent : Int
  deriving DecidableEq, Repr

/-- The interval of the decimals that read back as the number with significand `m` and exponent `e`,
in units of two to the power `e - 2`: its ends, and whether they belong to it. -/
structure Interval where
  low : Nat
  value : Nat
  high : Nat
  closed : Bool

def Interval.ofNumber (m : Nat) (e : Int) : Interval where
  low := 4 * m - if m = twoTo 52 ∧ -1074 < e then 1 else 2
  value := 4 * m
  high := 4 * m + 2
  closed := m % 2 = 0

/-- The better neighbour of the value on the grid of step `den / num` units, if one of the two lies
in the interval. A tie goes to the even neighbour. -/
def Interval.neighbour? (i : Interval) (num den : Nat) : Option Nat :=
  let below := i.value * num / den
  let inside (c : Nat) : Bool :=
    if i.closed then i.low * num ≤ c * den && c * den ≤ i.high * num
    else i.low * num < c * den && c * den < i.high * num
  match inside below, inside (below + 1) with
  | true, true =>
    let down := i.value * num - below * den
    let up := (below + 1) * den - i.value * num
    some (if down < up ∨ (down = up ∧ below % 2 = 0) then below else below + 1)
  | true, false => some below
  | false, true => some (below + 1)
  | false, false => none

/-- Tries the grids of step ten to the power `k`, `k - 1`, and so on. -/
def searchGrids (i : Interval) (e : Int) : Nat → Int → Scaled
  | 0, k => ⟨0, k⟩
  | tries + 1, k =>
    let num := twoTo (e - 2).toNat * tenTo (-k).toNat
    let den := twoTo (2 - e).toNat * tenTo k.toNat
    match i.neighbour? num den with
    | some c => ⟨c, k⟩
    | none => searchGrids i e tries (k - 1)

/-- The shortest decimal of the number with significand `m` and exponent `e`. The first grid is
coarser than the number, and seventeen digits tell all numbers apart. -/
def shortest (m : Nat) (e : Int) : Scaled :=
  if m = 0 then ⟨0, 0⟩
  else
    let place : Int := ((m.log2 : Int) + e) * 30103 / 100000
    searchGrids (Interval.ofNumber m e) e 20 (place + 2)

/-- How a decimal is laid out: positional for scientific exponents from `least` up to but not
including `limit`, else with an exponent of at least `exponentWidth` digits. -/
structure Layout where
  least : Int
  limit : Int
  exponentWidth : Nat

def padded (width n : Nat) : List Char :=
  let ds := Nat.toDigits 10 n
  List.replicate (width - ds.length) '0' ++ ds

/-- Digits with a decimal point after the first `place` of them; zeros fill the gap, and a number
without a fraction gets one zero as its fraction. -/
def positional (ds : List Char) (place : Int) : List Char :=
  if place ≤ 0 then
    '0' :: '.' :: List.replicate (-place).toNat '0' ++ ds
  else if ds.length ≤ place.toNat then
    ds ++ List.replicate (place.toNat - ds.length) '0' ++ ['.', '0']
  else
    ds.take place.toNat ++ '.' :: ds.drop place.toNat

/-- One digit, the others behind a point if there are any, and the exponent with its sign. -/
def scientific (width : Nat) (ds : List Char) (exponent : Int) : List Char :=
  ds.take 1 ++ (if ds.length ≤ 1 then [] else '.' :: ds.drop 1) ++
    'e' :: (if exponent < 0 then '-' else '+') :: padded width exponent.natAbs

def Layout.write (l : Layout) (d : Scaled) : List Char :=
  let ds := Nat.toDigits 10 d.digits
  let exponent := d.exponent + ds.length - 1
  if l.least ≤ exponent ∧ exponent < l.limit then positional ds (exponent + 1)
  else scientific l.exponentWidth ds exponent

/-- Positional from one ten-thousandth up to but not including ten to the power 16. -/
def standardLayout : Layout := ⟨-4, 16, 2⟩

/-- The text of a number. -/
def text (x : Float) : String :=
  match Binary64.shape x with
  | .nan => "nan"
  | .infinite negative => if negative then "-inf" else "inf"
  | .finite negative m e =>
    String.ofList ((if negative then ['-'] else []) ++ standardLayout.write (shortest m e))

end Formulary.Decimal
