import Formulary.Decimal.Numeral
/-!
# Integers in fields

A field for an integer also takes the text of one. The text is read as it stands; if it is no integer
then, it is tidied and read once more. Tidying takes away the blanks around it, a plus sign, zeros in
front, a fraction of zeros, and low lines between digits.
-/

set_option autoImplicit false
namespace Formulary.Numeral

/-- Why a text is no integer for a field. -/
inductive FieldIntegerError where
  | unreadable
  /-- The text has too many digits as it stands. -/
  | tooLong
  deriving DecidableEq, Repr

/-- Digits without a needless zero, behind a minus or nothing. -/
def readBareInt (cs : List Char) : Except FieldIntegerError Int :=
  let negative := cs.head? = some '-'
  let ds := if negative then cs.drop 1 else cs
  let digits := ds.takeWhile Char.isDigit
  if ds = ['0'] then .ok 0
  else if digits.isEmpty || ds.head? = some '0' then .error .unreadable
  else if maxDigits < digits.length then .error .tooLong
  else if digits.length < ds.length then .error .unreadable
  else .ok (if negative then -(digitsValue ds : Int) else digitsValue ds)

/-- What remains behind a zero or low line `before` when the zeros and low lines there go. One of them
stays in front of a point and at the end. -/
def behindZeros? (before : Char) : List Char → Option (List Char)
  | [] => some [before]
  | c :: cs =>
    if c = '0' ∨ c = '_' then behindZeros? c cs
    else if c = '.' then some (before :: c :: cs)
    else if c.isDigit || c = '-' then some (c :: cs)
    else none

/-- Takes away the zeros in front of a text that begins with a digit. -/
def dropZeros? : List Char → Option (List Char)
  | [] => none
  | c :: cs => if c = '0' then behindZeros? c cs else if c.isDigit then some (c :: cs) else none

/-- Takes away a point with nothing but zeros behind it, one at least. -/
def dropZeroFraction (cs : List Char) : List Char :=
  let whole := cs.takeWhile (· != '.')
  match cs.drop (whole.length + 1) with
  | [] => cs
  | zeros => if zeros.all (· == '0') then whole else cs

/-- Whether two low lines follow each other. -/
def hasDoubleLine : List Char → Bool
  | '_' :: '_' :: _ => true
  | _ :: cs => hasDoubleLine cs
  | [] => false

/-- Takes away the low lines, if they are single and none is first or last. -/
def dropLines (cs : List Char) : List Char :=
  if cs.head? = some '_' ∨ cs.getLast? = some '_' ∨ hasDoubleLine cs then cs
  else cs.filter (· != '_')

/-- A tidied text; there is none if it does not begin like an integer. -/
def tidied? (cs : List Char) : Option (List Char) :=
  let tidy (cs : List Char) := (dropZeros? cs).map fun cs => dropLines (dropZeroFraction cs)
  match Text.trimBy isMargin cs with
  | '-' :: cs => (tidy cs).map ('-' :: ·)
  | '+' :: cs => tidy cs
  | cs => tidy cs

/-- The integer that the text of a field writes. -/
def readFieldInt (s : String) : Except FieldIntegerError Int :=
  match readBareInt s.toList with
  | .error .unreadable =>
    match tidied? s.toList with
    | none => .error .unreadable
    | some cs => (readBareInt cs).mapError fun _ => .unreadable
  | x => x

end Formulary.Numeral
