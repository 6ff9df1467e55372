import Formulary.Decimal.Shortest
/-!
# Dates and moments

A date of the calendar in use today, carried back to the year 1, a time of day, and a moment: both of
them, and how far the clock is ahead of universal time, if that is known.
-/

set_option autoImplicit false
namespace Formulary

structure Date where
  year : Nat
  month : Nat
  day : Nat
  deriving DecidableEq, Repr

structure TimeOfDay where
  hour : Nat
  minute : Nat
  second : Nat
  microsecond : Nat
  deriving DecidableEq, Repr

structure Moment where
  date : Date
  time : TimeOfDay
  /-- The minutes by which the clock is ahead of universal time. -/
  offset : Option Int
  deriving DecidableEq, Repr

/-- A number with zeros in front up to a width. -/
def paddedText (width n : Nat) : String := String.ofList (Decimal.padded width n)

namespace Date

/-- Whether a year has a leap day. -/
def isLeap (year : Nat) : Bool := year % 4 == 0 && (year % 100 != 0 || year % 400 == 0)

def daysInMonth (year month : Nat) : Nat :=
  if month = 2 then if isLeap year then 29 else 28
  else if month ∈ [4, 6, 9, 11] then 30
  else 31

/-- Whether the calendar has the date. -/
def isPossible (d : Date) : Bool :=
  1 ≤ d.year && 1 ≤ d.month && d.month ≤ 12 && 1 ≤ d.day && d.day ≤ daysInMonth d.year d.month

/-- The number of the day, counted from the first day of the year 1. -/
def dayNumber (d : Date) : Nat :=
  let before := d.year - 1
  365 * before + before / 4 - before / 100 + before / 400 +
    (List.range (d.month - 1)).foldl (fun days m => days + daysInMonth d.year (m + 1)) 0 + d.day

def text (d : Date) : String :=
  paddedText 4 d.year ++ "-" ++ paddedText 2 d.month ++ "-" ++ paddedText 2 d.day

end Date

namespace TimeOfDay

/-- Whether a clock shows the time. -/
def isPossible (t : TimeOfDay) : Bool :=
  t.hour < 24 && t.minute < 60 && t.second < 60 && t.microsecond < 1000000

/-- The time to the second, and the microseconds if there are any. -/
def text (t : TimeOfDay) : String :=
  paddedText 2 t.hour ++ ":" ++ paddedText 2 t.minute ++ ":" ++ paddedText 2 t.second ++
    (if t.microsecond = 0 then "" else "." ++ paddedText 6 t.microsecond)

end TimeOfDay

namespace Moment

/-- Whether date and time are possible, and the offset is less than a day. -/
def isPossible (m : Moment) : Bool :=
  m.date.isPossible && m.time.isPossible && m.offset.all fun n => n.natAbs < 1440

/-- The minute in universal time, counted from the start of the year 1. -/
def universalMinute (m : Moment) (offset : Int) : Int :=
  1440 * (m.date.dayNumber : Int) + 60 * m.time.hour + m.time.minute - offset

/-- Whether two moments are the same. Without offsets they must agree in date and time; a moment with
an offset is never the same as one without. -/
def same (a b : Moment) : Bool :=
  match a.offset, b.offset with
  | none, none => a.date == b.date && a.time == b.time
  | some m, some n =>
    a.universalMinute m == b.universalMinute n && a.time.second == b.time.second &&
      a.time.microsecond == b.time.microsecond
  | _, _ => false

/-- An offset in hours and minutes. -/
def offsetText (n : Int) : String :=
  (if n < 0 then "-" else "+") ++ paddedText 2 (n.natAbs / 60) ++ ":" ++ paddedText 2 (n.natAbs % 60)

def text (m : Moment) : String :=
  m.date.text ++ " " ++ m.time.text ++ (m.offset.map offsetText).getD ""

end Moment
end Formulary
