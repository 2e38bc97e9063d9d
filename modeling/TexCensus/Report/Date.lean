import TexCensus.Text.Basic

/-!
# Dates

A moment is a number of seconds since the beginning of 1970, in universal time. It is shown as mail
headers show it: weekday, day, month, year of four digits, time and a distance of zero.

The calendar is the Gregorian one, extended to all years. Its years are taken to begin in March, so
that the leap day is the last day of a year; then months and leap years follow from divisions.
-/

namespace TexCensus.Report

/-! ## The calendar -/

/-- A day. -/
structure Day where
  year : Int
  /-- From one on. -/
  month : Nat
  /-- From one on. -/
  day : Nat
deriving DecidableEq, Repr

/-- The days from the first of March of the year 0 to the beginning of 1970. -/
def epochDay : Int :=
  719468

/-- The days of four centuries, after which the calendar repeats. -/
def cycle : Int :=
  146097

/-- The year of a day of a cycle, both counted from zero, in years that begin in March. -/
def yearOfCycle (day : Nat) : Nat :=
  (day - day / 1460 + day / 36524 - day / 146096) / 365

/-- The first day of a year of a cycle, both counted from zero, in years that begin in March. -/
def firstDayOfYear (year : Nat) : Nat :=
  365 * year + year / 4 - year / 100

/-- The first day of a month in a year that begins in March, both counted from zero. -/
def firstDayOfMonth (month : Nat) : Nat :=
  (153 * month + 2) / 5

/-- The day with a number, where the first day of 1970 has the number zero. -/
def Day.ofNumber (number : Int) : Day :=
  let shifted := number + epochDay
  -- Division rounds down, so days before the year 0 lie in cycles with negative numbers.
  let inCycle := (shifted % cycle).toNat
  let year := yearOfCycle inCycle
  let inYear := inCycle - firstDayOfYear year
  let month := (5 * inYear + 2) / 153
  { year := shifted / cycle * 400 + year + (if month < 10 then 0 else 1)
    month := if month < 10 then month + 3 else month - 9
    day := inYear - firstDayOfMonth month + 1 }

/-! ## Showing moments -/

/-- A number with at least a given number of digits. -/
def padded (width n : Nat) : Text :=
  List.replicate (width - (decimal n).length) '0' ++ decimal n

/-- The short names of the days of the week. -/
def weekdays : List String :=
  ["Sun", "Mon", "Tue", "Wed", "Thu", "Fri", "Sat"]

/-- The short names of the months. -/
def months : List String :=
  ["Jan", "Feb", "Mar", "Apr", "May", "Jun", "Jul", "Aug", "Sep", "Oct", "Nov", "Dec"]

/-- A name of a list. -/
def nameAt (names : List String) (i : Nat) : Text :=
  (names.getD i "").toList

/-- A time of day, given the seconds since midnight. -/
def timeText (seconds : Nat) : Text :=
  padded 2 (seconds / 3600) ++ ':' :: padded 2 (seconds / 60 % 60) ++ ':' :: padded 2 (seconds % 60)

/-- A moment as mail headers show it, unless its year does not have four digits. -/
def momentText? (seconds : Int) : Option Text :=
  let number := seconds / 86400
  let day := Day.ofNumber number
  if day.year < 0 ∨ 9999 < day.year then none
  else some (nameAt weekdays ((number + 4) % 7).toNat ++ ", ".toList
    ++ decimal day.day ++ [' '] ++ nameAt months (day.month - 1) ++ [' ']
    ++ padded 4 day.year.toNat ++ [' '] ++ timeText (seconds % 86400).toNat ++ " +0000".toList)

/-- The first moment that the calendar covers. -/
def firstMoment : Int :=
  -8334601228800

/-- The last moment that the calendar covers. -/
def lastMoment : Int :=
  8210266876799

/-- A date: nothing for zero, which stands for an unknown date, the plain number for a moment that
the calendar does not cover, and the moment otherwise. There is none if the calendar covers the
moment but its year does not have four digits. -/
def dateText? (seconds : Int) : Option Text :=
  if seconds = 0 then some []
  else if seconds < firstMoment ∨ lastMoment < seconds then some (decimalInt seconds)
  else momentText? seconds

end TexCensus.Report
