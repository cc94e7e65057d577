import FlipperZero.Foundation.Loop

/-!
# Calendar dates and UNIX timestamps

`datetime.c`. The products of `datetime_datetime_to_timestamp` leave the range of `int` from the
year 2038 on; they are taken modulo `2 ^ 32`, which is what the 32-bit target computes.
-/

namespace FlipperZero.Datetime

open Foundation

structure DateTime where
  hour    : UInt8
  minute  : UInt8
  second  : UInt8
  day     : UInt8
  month   : UInt8
  year    : UInt16
  weekday : UInt8
deriving DecidableEq, Repr

def secondsPerMinute : UInt32 := 60
def secondsPerHour   : UInt32 := secondsPerMinute * 60
def secondsPerDay    : UInt32 := secondsPerHour * 24
def epochStartYear   : UInt16 := 1970

/-- `datetime_days_per_month`, the row of a year that is a leap year or not. -/
def datetimeDaysPerMonth : Bool → List UInt8
  | false => [31, 28, 31, 30, 31, 30, 31, 31, 30, 31, 30, 31]
  | true  => [31, 29, 31, 30, 31, 30, 31, 31, 30, 31, 30, 31]

def datetimeDaysPerYear : Bool → UInt16
  | false => 365
  | true  => 366

def datetimeIsLeapYear (year : UInt16) : Bool :=
  (year % 4 == 0 && year % 100 != 0) || year % 400 == 0

def datetimeGetDaysPerYear (year : UInt16) : UInt16 :=
  datetimeDaysPerYear (datetimeIsLeapYear year)

/-- `none`: the table has no such month. -/
def datetimeGetDaysPerMonth (leapYear : Bool) (month : UInt8) : Option UInt8 :=
  (datetimeDaysPerMonth leapYear)[(month - 1).toNat]?

def datetimeCountYear (counts : UInt8 × UInt8) (y : UInt16) : UInt8 × UInt8 :=
  if datetimeIsLeapYear y then (counts.1, counts.2 + 1) else (counts.1 + 1, counts.2)

/-- The years from the start of the epoch up to `year`. -/
def datetimeCountYears (year : UInt16) : UInt8 × UInt8 :=
  ((List.range' epochStartYear.toNat (year.toNat - epochStartYear.toNat)).map UInt16.ofNat).foldl
    datetimeCountYear (0, 0)

def datetimeAddMonth (leapYear : Bool) (timestamp : UInt32) (m : UInt8) : Option UInt32 := do
  let days ← datetimeGetDaysPerMonth leapYear m
  return timestamp + days.toUInt32 * secondsPerDay

def datetimeDatetimeToTimestamp (datetime : DateTime) : Option UInt32 := do
  let (years, leapYears) := datetimeCountYears datetime.year
  let timestamp :=
    (years.toUInt32 * (datetimeDaysPerYear false).toUInt32 +
      leapYears.toUInt32 * (datetimeDaysPerYear true).toUInt32) * secondsPerDay
  let leapYear := datetimeIsLeapYear datetime.year
  let timestamp ← ((List.range' 1 (datetime.month.toNat - 1)).map UInt8.ofNat).foldlM
    (datetimeAddMonth leapYear) timestamp
  return timestamp + (datetime.day.toUInt32 - 1) * secondsPerDay +
    datetime.hour.toUInt32 * secondsPerHour +
    datetime.minute.toUInt32 * secondsPerMinute + datetime.second.toUInt32

/-- One round of the loop over the years: the days left and the year. -/
def datetimeYearRound : UInt32 × UInt16 → Round (UInt32 × UInt16) (UInt32 × UInt16)
  | (days, year) =>
    if days ≥ (datetimeGetDaysPerYear year).toUInt32 then
      .again (days - (datetimeGetDaysPerYear year).toUInt32, year + 1)
    else
      .leave (days, year)

def datetimeMonthRound (leapYear : Bool) :
    UInt32 × UInt8 → Round (UInt32 × UInt8) (Option (UInt32 × UInt8))
  | (days, month) =>
    match datetimeGetDaysPerMonth leapYear month with
    | none   => .leave none
    | some n =>
      if days ≥ n.toUInt32 then .again (days - n.toUInt32, month + 1)
      else .leave (some (days, month))

/-- Each of the two loops runs at most `rounds` rounds. -/
def datetimeTimestampToDatetime (rounds : Nat) (timestamp : UInt32) : Option DateTime := do
  let days := timestamp / secondsPerDay
  let secondsInDay := timestamp % secondsPerDay
  let weekday := ((days + 3) % 7).toUInt8 + 1
  let (days, year) ← loop datetimeYearRound rounds (days, epochStartYear)
  let (days, month) ← (← loop (datetimeMonthRound (datetimeIsLeapYear year)) rounds (days, 1))
  return {
    hour    := (secondsInDay / secondsPerHour).toUInt8
    minute  := ((secondsInDay % secondsPerHour) / secondsPerMinute).toUInt8
    second  := (secondsInDay % secondsPerMinute).toUInt8
    day     := (days + 1).toUInt8
    month   := month
    year    := year
    weekday := weekday }

end FlipperZero.Datetime
