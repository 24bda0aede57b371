/-
  Dates and days.

  A date counts milliseconds since the beginning of 1970.  It is written as year, month and day of
  the Gregorian calendar, extended to all years, then the time of day with the hour not padded and
  the second with its decimals, and the offset, which is always zero.  Years have four digits, and
  years before zero a sign, so the calendar ends at the years ±9999; a date beyond is written as
  its number.

  Days are turned into dates and back by counting from the first of March of the year 0, because
  then the day that leap years add is the last of the year: 146097 days make four hundred years.
-/

namespace DocStore.Calendar

/-- Pads a number with zeros to a width. -/
def padded (width n : Nat) : String :=
  let digits := toString n
  String.ofList (List.replicate (width - digits.length) '0') ++ digits

/-- Year, month and day of a day counted from the beginning of 1970. -/
def dateOfDay (day : Int) : Int × Nat × Nat :=
  let fromMarch := day + 719468
  let era := fromMarch / 146097
  let dayOfEra := (fromMarch % 146097).toNat
  let yearOfEra := (dayOfEra - dayOfEra / 1460 + dayOfEra / 36524 - dayOfEra / 146096) / 365
  let dayOfYear := dayOfEra - (365 * yearOfEra + yearOfEra / 4 - yearOfEra / 100)
  let monthFromMarch := (5 * dayOfYear + 2) / 153
  let dayOfMonth := dayOfYear - (153 * monthFromMarch + 2) / 5 + 1
  let month := if monthFromMarch < 10 then monthFromMarch + 3 else monthFromMarch - 9
  let year := (yearOfEra : Int) + era * 400 + (if month ≤ 2 then 1 else 0)
  (year, month, dayOfMonth)

/-- The day, counted from the beginning of 1970, that has a date. -/
def dayOfDate (year : Int) (month day : Nat) : Int :=
  let fromMarch := if month ≤ 2 then year - 1 else year
  let monthFromMarch := if month ≤ 2 then month + 9 else month - 3
  365 * fromMarch + fromMarch / 4 - fromMarch / 100 + fromMarch / 400
    + ((153 * monthFromMarch + 2) / 5 + day : Nat) - 719469

def isLeapYear (year : Int) : Bool :=
  decide (year % 4 = 0) && (decide (year % 100 ≠ 0) || decide (year % 400 = 0))

/-- How many days a month has. -/
def daysInMonth (year : Int) (month : Nat) : Nat :=
  match month with
  | 2 => if isLeapYear year then 29 else 28
  | 4 | 6 | 9 | 11 => 30
  | _ => 31

/-- A year with four digits, and a sign before the year 0. -/
def yearText (year : Int) : String :=
  (if year < 0 then "-" else "") ++ padded 4 year.natAbs

/-- The decimals of a second, at least one, without zeros at the end. -/
def decimals (milliseconds : Nat) : String :=
  if milliseconds % 100 = 0 then toString (milliseconds / 100)
  else if milliseconds % 10 = 0 then padded 2 (milliseconds / 10)
  else padded 3 milliseconds

def millisecondsPerDay : Int := 86400000

/-- The first moment of the calendar, in milliseconds. -/
def firstMoment : Int := -377705116800000

/-- The last millisecond of the calendar. -/
def lastMoment : Int := 253402300799999

/-- The text of a date. -/
def text (milliseconds : Int) : String :=
  if milliseconds < firstMoment ∨ lastMoment < milliseconds then toString milliseconds
  else
    let (year, month, day) := dateOfDay (milliseconds / millisecondsPerDay)
    let time := (milliseconds % millisecondsPerDay).toNat
    yearText year ++ "-" ++ padded 2 month ++ "-" ++ padded 2 day ++ " "
      ++ toString (time / 3600000) ++ ":" ++ padded 2 (time / 60000 % 60) ++ ":"
      ++ padded 2 (time / 1000 % 60) ++ "." ++ decimals (time % 1000) ++ " +00:00:00"

end DocStore.Calendar
