/-! # Dates

Days of the calendar, and times of day with an optional distance from universal time.

* `Date` is a day, `Date.make` checks that there is such a day.
* `Moment` is a day with a time, `Moment.make` checks its parts; `DateFault` says what is wrong.
* `Date.shown` and `Moment.shown` are their texts in messages. -/

namespace ScriptAdvisor

/-- What is wrong with a date. -/
inductive DateFault where
  /-- There is no such year. -/
  | year (number : Nat)
  /-- There is no such month. -/
  | month
  /-- The month has no such day. -/
  | day
  /-- There is no such hour. -/
  | hour
  /-- There is no such minute. -/
  | minute
  /-- There is no such second. -/
  | second
  /-- The distance from universal time, in minutes, is a day or more. -/
  | offset (minutes : Int)
  deriving DecidableEq, Repr, Inhabited

/-- A span of minutes as messages show it: whole days and the seconds that are left. -/
def spanText (minutes : Int) : String :=
  let days := minutes.fdiv 1440
  let seconds := 60 * minutes.fmod 1440
  let parts :=
    (if days = 0 then [] else [s!"days={days}"])
      ++ if seconds = 0 then [] else [s!"seconds={seconds}"]
  "datetime.timedelta(" ++ (if parts.isEmpty then "0" else ", ".intercalate parts) ++ ")"

/-- The wording of a fault. -/
def DateFault.message : DateFault → String
  | year number => s!"year {number} is out of range"
  | month => "month must be in 1..12"
  | day => "day is out of range for month"
  | hour => "hour must be in 0..23"
  | minute => "minute must be in 0..59"
  | second => "second must be in 0..59"
  | offset minutes =>
    "offset must be a timedelta strictly between -timedelta(hours=24) and timedelta(hours=24), not "
      ++ spanText minutes ++ "."

/-- A day. -/
structure Date where
  /-- The year. -/
  year : Nat
  /-- The month, counted from one. -/
  month : Nat
  /-- The day of the month, counted from one. -/
  day : Nat
  deriving DecidableEq, Repr, Inhabited

namespace Date

/-- Whether a year has a leap day. -/
def isLeapYear (year : Nat) : Bool := (year % 4 == 0 && year % 100 != 0) || year % 400 == 0

/-- The number of days of a month. -/
def daysIn (year month : Nat) : Nat :=
  if month = 2 then if isLeapYear year then 29 else 28
  else if [4, 6, 9, 11].contains month then 30
  else 31

/-- The day of the given numbers. Years have at most four digits. -/
def make (year month day : Nat) : Except DateFault Date :=
  if year = 0 ∨ 9999 < year then .error (.year year)
  else if month = 0 ∨ 12 < month then .error .month
  else if day = 0 ∨ daysIn year month < day then .error .day
  else .ok { year, month, day }

/-- The numbers of a day. -/
def numbers (date : Date) : List Nat := [date.year, date.month, date.day]

/-- A day as messages show it. -/
def shown (date : Date) : String :=
  "datetime.date(" ++ ", ".intercalate (date.numbers.map toString) ++ ")"

end Date

/-- A time on a day. -/
structure Moment where
  /-- The day. -/
  date : Date
  /-- The hour. -/
  hour : Nat
  /-- The minute. -/
  minute : Nat
  /-- The second. -/
  second : Nat
  /-- The millionths of a second. -/
  micro : Nat
  /-- The distance from universal time in minutes, if known. -/
  offset : Option Int
  deriving DecidableEq, Repr, Inhabited

namespace Moment

/-- The time of the given numbers. The distance from universal time is checked first. -/
def make (year month day hour minute second micro : Nat) (offset : Option Int) :
    Except DateFault Moment :=
  match offset.filter fun minutes => 1440 ≤ minutes.natAbs with
  | some minutes => .error (.offset minutes)
  | none => do
    let date ← Date.make year month day
    if 23 < hour then .error .hour
    else if 59 < minute then .error .minute
    else if 59 < second then .error .second
    else return { date, hour, minute, second, micro, offset }

/-- The text of a distance from universal time. -/
def offsetText (minutes : Int) : String :=
  if minutes = 0 then "datetime.timezone.utc"
  else "datetime.timezone(" ++ spanText minutes ++ ")"

/-- The numbers of a time. Seconds, or only their fraction, are left out if they are zero. -/
def numbers (moment : Moment) : List Nat :=
  moment.date.numbers ++ [moment.hour, moment.minute]
    ++ if moment.micro ≠ 0 then [moment.second, moment.micro]
      else if moment.second ≠ 0 then [moment.second]
      else []

/-- A time as messages show it. -/
def shown (moment : Moment) : String :=
  let zone := (moment.offset.map fun minutes => ", tzinfo=" ++ offsetText minutes).getD ""
  "datetime.datetime(" ++ ", ".intercalate (moment.numbers.map toString) ++ zone ++ ")"

end Moment

end ScriptAdvisor
