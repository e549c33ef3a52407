import SequenceChart.Number.Scalar

/-!
# Timestamps

A document carries the time it was made, once for readers and once as part of its id.  A timestamp
is a date and a time of day in the Gregorian calendar, with the distance from universal time.
-/

set_option autoImplicit false
namespace SequenceChart

/-- A date and a time of day somewhere. -/
structure Timestamp where
  /-- The year. -/
  year : Nat
  /-- The month, from one. -/
  month : Nat
  /-- The day of the month, from one. -/
  day : Nat
  /-- The hour. -/
  hour : Nat
  /-- The minute. -/
  minute : Nat
  /-- The second. -/
  second : Nat
  /-- The millionth of the second. -/
  microsecond : Nat
  /-- How many seconds the time of day is ahead of universal time. -/
  ahead : Int
  deriving DecidableEq, Repr

namespace Timestamp

/-! ## As text -/

/-- A number filled up with zeros. -/
def padded (width n : Nat) : String :=
  String.ofList ((toString n).toList.leftpad width '0')

/-- The distance from universal time: hours and minutes, and seconds if there are any. -/
def zoneText (t : Timestamp) : String :=
  let n := t.ahead.natAbs
  (if t.ahead < 0 then "-" else "+") ++ padded 2 (n / 3600) ++ ":" ++ padded 2 (n / 60 % 60) ++
    (if n % 60 = 0 then "" else ":" ++ padded 2 (n % 60))

/-- Date, time of day to the millisecond, and distance from universal time. -/
def text (t : Timestamp) : String :=
  padded 4 t.year ++ "-" ++ padded 2 t.month ++ "-" ++ padded 2 t.day ++ "T" ++
    padded 2 t.hour ++ ":" ++ padded 2 t.minute ++ ":" ++ padded 2 t.second ++ "." ++
    padded 3 (t.microsecond / 1000) ++ t.zoneText

/-! ## As a number -/

/-- Whether a year has a leap day. -/
def isLeap (year : Nat) : Bool :=
  year % 4 == 0 && (year % 100 != 0 || year % 400 == 0)

/-- The lengths of the months of a year. -/
def monthLengths (year : Nat) : List Nat :=
  [31, if isLeap year then 29 else 28, 31, 30, 31, 30, 31, 31, 30, 31, 30, 31]

/-- How many days there are before a year, counted from the first day of year one. -/
def daysBeforeYear (year : Nat) : Int :=
  let n : Int := (year : Int) - 1
  365 * n + n / 4 - n / 100 + n / 400

/-- How many days of a year there are before a month. -/
def daysBeforeMonth (year month : Nat) : Nat :=
  ((monthLengths year).take (month - 1)).foldl (· + ·) 0

/-- How many days a date is after the first day of 1970. -/
def dayNumber (t : Timestamp) : Int :=
  daysBeforeYear t.year - daysBeforeYear 1970 +
    daysBeforeMonth t.year t.month + t.day - 1

/-- How many millionths of a second a timestamp is after the beginning of 1970 in universal time. -/
def microseconds (t : Timestamp) : Int :=
  (t.dayNumber * 86400 + t.hour * 3600 + t.minute * 60 + t.second - t.ahead) * 1000000 +
    t.microsecond

/-- The same in seconds, to the nearest floating-point number. -/
def seconds (t : Timestamp) : Float :=
  let size := Float.ofScientific t.microseconds.natAbs true 6
  if t.microseconds < 0 then -size else size

/-- The number of milliseconds, with what is left of one dropped. -/
def milliseconds (t : Timestamp) : Int :=
  match Scalar.truncate (t.seconds * 1000.0) with
  | .ok n => n
  | .error _ => 0

/-! ## From a number -/

/-- The date, in universal time, that is a number of days after the first day of 1970.  Years are
counted from the first of March, so that a leap day is the last of its year, and in cycles of four
hundred, which all have the same number of days. -/
def dateOfDay (day : Nat) : Nat × Nat × Nat :=
  let n := day + 719468
  let inCycle := n % 146097
  let year := (inCycle - inCycle / 1460 + inCycle / 36524 - inCycle / 146096) / 365
  let inYear := inCycle - (365 * year + year / 4 - year / 100)
  let month := (5 * inYear + 2) / 153
  let start := n / 146097 * 400 + year
  (if month < 10 then start else start + 1, if month < 10 then month + 3 else month - 9,
    inYear - (153 * month + 2) / 5 + 1)

/-- The timestamp in universal time of a number of millionths of a second after the beginning of
1970. -/
def ofMicroseconds (n : Nat) : Timestamp :=
  let second := n / 1000000
  let (year, month, day) := dateOfDay (second / 86400)
  ⟨year, month, day, second / 3600 % 24, second / 60 % 60, second % 60, n % 1000000, 0⟩

end Timestamp
end SequenceChart
