import Formulary.Calendar
/-!
# Time stamps

The text of a moment in universal time, from the number of microseconds since the start of 1970. Dates
are counted in years that begin in March, so that the leap day is the last day of its year.
-/

set_option autoImplicit false
namespace Formulary.Stamp

/-- Days in 400 years, after which the calendar repeats. -/
def cycleDays : Nat := 146097

/-- Days from the first of March of the year zero to the start of 1970. -/
def daysBefore1970 : Nat := 719468

/-- The year of the cycle that a day of it lies in. -/
def yearOfCycle (day : Nat) : Nat := (day - day / 1460 + day / 36524 - day / 146096) / 365

/-- Days of a cycle before one of its years. -/
def daysBeforeYear (year : Nat) : Nat := 365 * year + year / 4 - year / 100

/-- The date of a day, counted from the start of 1970. -/
def dateOf (days : Nat) : Date :=
  let n := days + daysBefore1970
  let day := n % cycleDays
  let year := yearOfCycle day
  let dayOfYear := day - daysBeforeYear year
  let month := (5 * dayOfYear + 2) / 153
  let early := month < 10
  { year := 400 * (n / cycleDays) + year + (if early then 0 else 1)
    month := if early then month + 3 else month - 9
    day := dayOfYear - (153 * month + 2) / 5 + 1 }

/-- A moment as an event notes it. -/
def ofMicroseconds (n : Nat) : String :=
  let seconds := n / 1000000
  (dateOf (seconds / 86400)).text ++ "T" ++ paddedText 2 (seconds / 3600 % 24) ++ ":" ++
    paddedText 2 (seconds / 60 % 60) ++ ":" ++ paddedText 2 (seconds % 60) ++ "." ++
    paddedText 6 (n % 1000000) ++ "Z"

end Formulary.Stamp
