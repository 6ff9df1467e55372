import Formulary.Datum
import Formulary.Decimal.Numeral
import Formulary.Yaml.Cursor
/-!
# Dates and moments in a document

A date is written with four, two and two digits. A moment is a date, whose month and day may have one
digit, and behind a `T` or blanks a time of day, which may have a fraction and the offset of its clock.
-/

set_option autoImplicit false
namespace Formulary.Yaml

/-- A number of `least` to `most` digits in front, and what follows them. -/
def digits? (least most : Nat) (cs : List Char) : Option (Nat × List Char) :=
  let ds := (cs.take most).takeWhile Char.isDigit
  if ds.length < least then none else some (Numeral.digitsValue ds, cs.drop ds.length)

/-- What follows a mark. -/
def behind? (mark : Char) : List Char → Option (List Char)
  | c :: cs => if c = mark then some cs else none
  | [] => none

def isBlankMark (c : Char) : Bool := c == ' ' || c == '\t'

/-- A date in front, with `least` digits at least for its month and its day. -/
def date? (least : Nat) (cs : List Char) : Option (Date × List Char) := do
  let (year, cs) ← digits? 4 4 cs
  let (month, cs) ← digits? least 2 (← behind? '-' cs)
  let (day, cs) ← digits? least 2 (← behind? '-' cs)
  some (⟨year, month, day⟩, cs)

/-- What stands between the date and the time of a moment. -/
def behindDate? : List Char → Option (List Char)
  | 'T' :: cs | 't' :: cs => some cs
  | c :: cs => if isBlankMark c then some (cs.dropWhile isBlankMark) else none
  | [] => none

/-- The microseconds of a fraction of a second; further digits are cut off. -/
def microseconds (fraction : List Char) : Nat :=
  Numeral.digitsValue ((fraction ++ List.replicate 6 '0').take 6)

/-- A time of day in front. -/
def time? (cs : List Char) : Option (TimeOfDay × List Char) := do
  let (hour, cs) ← digits? 1 2 cs
  let (minute, cs) ← digits? 2 2 (← behind? ':' cs)
  let (second, cs) ← digits? 2 2 (← behind? ':' cs)
  match cs with
  | '.' :: cs =>
    some (⟨hour, minute, second, microseconds (cs.takeWhile Char.isDigit)⟩, cs.dropWhile Char.isDigit)
  | _ => some (⟨hour, minute, second, 0⟩, cs)

/-- The minutes of an offset of hours, or of hours and minutes, at the end of a scalar. -/
def offsetMinutes? (cs : List Char) : Option Nat := do
  let (hours, cs) ← digits? 1 2 cs
  match cs with
  | [] => some (60 * hours)
  | _ =>
    match ← digits? 2 2 (← behind? ':' cs) with
    | (minutes, []) => some (60 * hours + minutes)
    | _ => none

/-- The end of a moment: nothing, the mark of universal time, or a signed offset. -/
def offset? (cs : List Char) : Option (Option Int) :=
  if cs.isEmpty then some none
  else
    match cs.dropWhile isBlankMark with
    | ['Z'] => some (some 0)
    | '+' :: cs => (offsetMinutes? cs).map fun n => some (n : Int)
    | '-' :: cs => (offsetMinutes? cs).map fun n => some (-(n : Int))
    | _ => none

/-- A moment, if the characters have the form of one. -/
def moment? (cs : List Char) : Option Moment := do
  let (date, cs) ← date? 1 cs
  let (time, cs) ← time? (← behindDate? cs)
  some ⟨date, time, ← offset? cs⟩

/-- A date or a moment, if the characters have the form of one. -/
def timestamp? (cs : List Char) : Option (Except Error Datum) :=
  match date? 2 cs with
  | some (d, []) => some (if d.isPossible then .ok (.date d) else .error .noSuchValue)
  | _ => (moment? cs).map fun m => if m.isPossible then .ok (.moment m) else .error .noSuchValue

end Formulary.Yaml
