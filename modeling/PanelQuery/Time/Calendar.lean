/-!
# Time - calendar

Days of the Gregorian calendar, extended to all years before and after, counted from 1 January 1970.
The count goes by years that begin in March, so that a leap day ends its year, and by eras of 400
years, which all have the same number of days.
-/

namespace PanelQuery
namespace Time

/-- A day of the calendar. -/
structure Date where
  year : Int
  month : Nat
  day : Nat
deriving DecidableEq, Repr

/-- Whether a year has a leap day. -/
def isLeapYear (year : Int) : Bool :=
  year % 4 == 0 && (year % 100 != 0 || year % 400 == 0)

/-- The number of days of a month. -/
def daysInMonth (year : Int) (month : Nat) : Nat :=
  match month with
  | 2 => if isLeapYear year then 29 else 28
  | 4 | 6 | 9 | 11 => 30
  | _ => 31

/-- Whether a date is a day of the calendar. -/
def Date.isValid (d : Date) : Bool :=
  1 ≤ d.month && d.month ≤ 12 && 1 ≤ d.day && d.day ≤ daysInMonth d.year d.month

/-- The number of days in 400 years. -/
def daysInEra : Int := 146097

/-- The days from 1 March of the year 0 to 1 January 1970. -/
def daysBeforeEpoch : Int := 719468

/-- The number of a day, counted from 1 January 1970. -/
def Date.toDayNumber (d : Date) : Int :=
  let year := if d.month ≤ 2 then d.year - 1 else d.year
  let month : Int := if d.month ≤ 2 then d.month + 9 else d.month - 3
  let era := year / 400
  let yearOfEra := year % 400
  let dayOfYear := (153 * month + 2) / 5 + d.day - 1
  let dayOfEra := yearOfEra * 365 + yearOfEra / 4 - yearOfEra / 100 + dayOfYear
  era * daysInEra + dayOfEra - daysBeforeEpoch

/-- The day of a number that counts from 1 January 1970. -/
def Date.ofDayNumber (n : Int) : Date :=
  let shifted := n + daysBeforeEpoch
  let era := shifted / daysInEra
  let dayOfEra := shifted % daysInEra
  let yearOfEra := (dayOfEra - dayOfEra / 1460 + dayOfEra / 36524 - dayOfEra / 146096) / 365
  let dayOfYear := dayOfEra - (365 * yearOfEra + yearOfEra / 4 - yearOfEra / 100)
  let month := (5 * dayOfYear + 2) / 153
  let day := dayOfYear - (153 * month + 2) / 5 + 1
  let year := yearOfEra + era * 400
  if month < 10 then ⟨year, (month + 3).toNat, day.toNat⟩
  else ⟨year + 1, (month - 9).toNat, day.toNat⟩

end Time
end PanelQuery
