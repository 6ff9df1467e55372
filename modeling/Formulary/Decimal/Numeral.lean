import Formulary.Decimal.Binary64
import Formulary.Text.Blank
import Formulary.Text.Digit
/-!
# Number texts

Reading a decimal number or an integer from a text: blanks around it are ignored, digits of every
script count as digits, and single low lines may stand between two digits.
-/

set_option autoImplicit false
namespace Formulary.Numeral

/-- Blanks around a number: among the ASCII characters only the usual white space. -/
def isMargin (c : Char) : Bool :=
  if c.toNat < 127 then c.toNat = 32 || (9 ≤ c.toNat && c.toNat ≤ 13) else Text.isBlank c

/-- Writes digits of other scripts as ASCII digits. -/
def asciiDigit (c : Char) : Char :=
  if c.toNat < 127 then c
  else
    match Text.digitValue? c with
    | some d => Char.ofNat (48 + d)
    | none => c

/-- The text without the blanks around it, with ASCII digits. -/
def normalized (s : String) : List Char :=
  (Text.trimBy isMargin s.toList).map asciiDigit

/-- Removes the low lines, if each stands between two digits. -/
def joinGroups? : Option Char → List Char → Option (List Char)
  | _, [] => some []
  | before, '_' :: c :: rest =>
    if before.any Char.isDigit && c.isDigit then joinGroups? (some '_') (c :: rest) else none
  | _, c :: rest => if c = '_' then none else (joinGroups? (some c) rest).map (c :: ·)

/-- A sign in front, and the rest. -/
def takeSign : List Char → Bool × List Char
  | '-' :: rest => (true, rest)
  | '+' :: rest => (false, rest)
  | rest => (false, rest)

/-- The number that ASCII digits write. -/
def digitsValue (ds : List Char) : Nat :=
  ds.foldl (fun n d => 10 * n + (d.toNat - 48)) 0

/-- The exponent behind a decimal: nothing, or a mark and a signed integer. -/
def readExponent? : List Char → Option Int
  | [] => some 0
  | mark :: rest =>
    let (negative, ds) := takeSign rest
    if (mark = 'e' ∨ mark = 'E') ∧ !ds.isEmpty ∧ ds.all Char.isDigit then
      some (if negative then -(digitsValue ds : Int) else digitsValue ds)
    else none

/-- The number nearest to `digits` times ten to the power of `exponent`. A decimal far out of the
range of numbers is not expanded. -/
def nearestDecimal (negative : Bool) (digits : Nat) (exponent : Int) : Float :=
  let magnitude : Int := (Nat.toDigits 10 digits).length + exponent
  if digits = 0 ∨ magnitude < -400 then Binary64.nearest negative 0 1
  else if 400 < magnitude then Binary64.nearest negative (twoTo 1024) 1
  else Binary64.nearest negative (digits * tenTo exponent.toNat) (tenTo (-exponent).toNat)

/-- An unsigned decimal: digits with an optional point, at least one digit, and an exponent. -/
def readUnsigned? (negative : Bool) (cs : List Char) : Option Float :=
  let whole := cs.takeWhile Char.isDigit
  let rest := cs.dropWhile Char.isDigit
  let (fraction, tail) :=
    match rest with
    | '.' :: more => (more.takeWhile Char.isDigit, more.dropWhile Char.isDigit)
    | _ => ([], rest)
  if whole.isEmpty && fraction.isEmpty then none
  else
    (readExponent? tail).map fun exponent =>
      nearestDecimal negative (digitsValue (whole ++ fraction)) (exponent - fraction.length)

/-- Names of numbers without digits, in lower case. -/
def readName? (negative : Bool) (cs : List Char) : Option Float :=
  let name := String.ofList (cs.map Char.toLower)
  if name = "inf" ∨ name = "infinity" then
    some (if negative then -Binary64.infinity else Binary64.infinity)
  else if name = "nan" then some Binary64.nan
  else none

/-- Reads a decimal number. -/
def readFloat? (s : String) : Option Float := do
  let cs ← joinGroups? none (normalized s)
  let (negative, body) := takeSign cs
  readName? negative body <|> readUnsigned? negative body

/-- Longer integers are refused. -/
def maxDigits : Nat := 4300

/-- Reads an integer. -/
def readInt? (s : String) : Option Int := do
  let (negative, body) := takeSign (normalized s)
  let ds ← joinGroups? none body
  if ds.isEmpty || !ds.all Char.isDigit || maxDigits < ds.length then none
  else some (if negative then -(digitsValue ds : Int) else digitsValue ds)

end Formulary.Numeral
