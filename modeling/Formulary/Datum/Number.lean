import Formulary.Datum
import Formulary.Decimal.Numeral
import Formulary.Text.Quoted
/-!
# Data as numbers

A value is turned into a number when one is needed: a truth value counts as zero or one, an integer
is rounded, and a text is read, also one of bytes. What can go wrong is one of the causes of
`NumberError`.
-/

set_option autoImplicit false
namespace Formulary

/-- Why a value gives no number. -/
inductive NumberError where
  /-- The text, which is given as a message shows it, is not a number. -/
  | unreadable (shown : String)
  /-- Not-a-number has no integral part. -/
  | undefined
  /-- A value of a kind that no number is made of: a date, a moment, other values or nothing. -/
  | notNumeric
  /-- The value lies beyond the range of the result. -/
  | tooLarge
  deriving DecidableEq, Repr

/-- The wording for a text that is not a number. -/
def NumberError.unreadableMessage (shown : String) : String :=
  "could not convert string to float: " ++ shown

namespace Numeral

/-- The number that a text writes. -/
def float (s : String) : Except NumberError Float :=
  match readFloat? s with
  | some x => .ok x
  | none => .error (.unreadable (Text.quoted s))

/-- The number nearest to an integer. -/
def ofInt (n : Int) : Except NumberError Float :=
  let x := Binary64.ofInt n
  if Binary64.isInfinite x then .error .tooLarge else .ok x

end Numeral

namespace Datum

/-- The text of bytes that are all ASCII. -/
def ascii? (bs : List UInt8) : Option String :=
  if bs.all (· < 128) then some (String.ofList (bs.map fun b => Char.ofNat b.toNat)) else none

/-- The value as a number of 64 bits. -/
def toFloat : Datum → Except NumberError Float
  | float x => .ok x
  | bool b => .ok (if b then 1.0 else 0.0)
  | int n => Numeral.ofInt n
  | text s => Numeral.float s
  | broken t => .error (.unreadable (Text.quotedCodes t.codes))
  | bytes bs =>
    match (ascii? bs).bind Numeral.readFloat? with
    | some x => .ok x
    | none => .error (.unreadable (Text.quotedBytes bs))
  | null | date _ | moment _ | list _ | tuple _ | set _ | map _ => .error .notNumeric

/-- The value as an integer; a fraction is cut off. -/
def toInt : Datum → Except NumberError Int
  | int n => .ok n
  | bool b => .ok b.toNat
  | float x =>
    match Binary64.shape x with
    | .nan => .error .undefined
    | .infinite _ => .error .tooLarge
    | .finite .. => .ok ((Binary64.truncate? x).getD 0)
  | text s =>
    match Numeral.readInt? s with
    | some n => .ok n
    | none => .error (.unreadable (Text.quoted s))
  | broken t => .error (.unreadable (Text.quotedCodes t.codes))
  | bytes bs =>
    match (ascii? bs).bind Numeral.readInt? with
    | some n => .ok n
    | none => .error (.unreadable (Text.quotedBytes bs))
  | null | date _ | moment _ | list _ | tuple _ | set _ | map _ => .error .notNumeric

end Datum
end Formulary
