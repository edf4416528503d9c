import Canopen.Number.Positional

/-!
# Dates and times

Days of the calendar and moments of a day, with an optional distance from universal time.
-/

namespace Canopen

structure Date where
  year : Nat
  month : Nat
  day : Nat
deriving DecidableEq, Repr

/-- A time of a day; the offset from universal time is in minutes. -/
structure Moment where
  date : Date
  hour : Nat
  minute : Nat
  second : Nat
  microsecond : Nat
  offset : Option Int
deriving DecidableEq, Repr

/-- Why numbers are no date or no time of a day. -/
inductive CalendarError where
  | year (value : Nat)
  | month
  | day
  | hour
  | minute
  | second
  | offset (minutes : Int)
deriving DecidableEq, Repr

namespace Date

def isLeap (year : Nat) : Bool :=
  year % 4 = 0 && (year % 100 ≠ 0 || year % 400 = 0)

def daysIn (year month : Nat) : Nat :=
  match month with
  | 2 => if isLeap year then 29 else 28
  | 4 | 6 | 9 | 11 => 30
  | _ => 31

/-- The day of the calendar with the given numbers. -/
def of (year month day : Nat) : Except CalendarError Date :=
  if year = 0 then .error (.year year)
  else if month = 0 ∨ 12 < month then .error .month
  else if day = 0 ∨ daysIn year month < day then .error .day
  else .ok ⟨year, month, day⟩

/-- How many days lie before a year. -/
def daysBefore (year : Nat) : Nat :=
  let years := year - 1
  years * 365 + years / 4 - years / 100 + years / 400

/-- The number of the day, counted from the first day of the first year. -/
def number (date : Date) : Nat :=
  let months := (List.range (date.month - 1)).map fun month => daysIn date.year (month + 1)
  daysBefore date.year + months.foldl (· + ·) 0 + (date.day - 1)

end Date

namespace Moment

/-- The minutes of a day. -/
def dayMinutes : Int := 24 * 60

/-- The time of the day with the given numbers. -/
def of (date : Date) (hour minute second microsecond : Nat) (offset : Option Int) :
    Except CalendarError Moment :=
  if 23 < hour then .error .hour
  else if 59 < minute then .error .minute
  else if 59 < second then .error .second
  else .ok ⟨date, hour, minute, second, microsecond, offset⟩

/-- An offset from universal time is less than a day. -/
def checkOffset (minutes : Int) : Except CalendarError Int :=
  if -dayMinutes < minutes ∧ minutes < dayMinutes then .ok minutes else .error (.offset minutes)

/-- The minute of universal time, if the distance from it is known. -/
def universalMinute? (moment : Moment) : Option Int :=
  moment.offset.map fun offset =>
    moment.date.number * dayMinutes + moment.hour * 60 + moment.minute - offset

/-- Two moments that compare as equal: the same time of a day, or the same time everywhere. -/
def same (left right : Moment) : Bool :=
  match left.universalMinute?, right.universalMinute? with
  | some m, some n =>
      m = n && left.second = right.second && left.microsecond = right.microsecond
  | none, none => left = right
  | _, _ => false

end Moment

/-- Decimal digits up to a width. -/
def paddedDecimal (width n : Nat) : String :=
  String.ofList (Number.padZeros width (Nat.toDigits 10 n))

namespace Date

/-- Year, month and day between hyphens. -/
def text (date : Date) : String :=
  paddedDecimal 4 date.year ++ "-" ++ paddedDecimal 2 date.month ++ "-" ++
    paddedDecimal 2 date.day

/-- The date as a constructor call. -/
def inspect (date : Date) : String :=
  "datetime.date(" ++ Number.decimal date.year ++ ", " ++ Number.decimal date.month ++ ", " ++
    Number.decimal date.day ++ ")"

end Date

/-- A number of minutes as days and seconds, the days rounded down. -/
def minutesAsDelta (minutes : Int) : String :=
  let days := minutes.fdiv Moment.dayMinutes
  let seconds := minutes.fmod Moment.dayMinutes * 60
  let parts :=
    (if days = 0 then [] else ["days=" ++ Number.decimal days]) ++
      (if seconds = 0 then [] else ["seconds=" ++ Number.decimal seconds])
  "datetime.timedelta(" ++ (if parts.isEmpty then "0" else ", ".intercalate parts) ++ ")"

namespace Moment

/-- Hours and minutes of an offset after its sign. -/
def offsetText (minutes : Int) : String :=
  (if minutes < 0 then "-" else "+") ++ paddedDecimal 2 (minutes.natAbs / 60) ++ ":" ++
    paddedDecimal 2 (minutes.natAbs % 60)

/-- Date and time of day with a blank between them; a fraction is written only when there is one. -/
def text (moment : Moment) : String :=
  moment.date.text ++ " " ++ paddedDecimal 2 moment.hour ++ ":" ++
    paddedDecimal 2 moment.minute ++ ":" ++ paddedDecimal 2 moment.second ++
    (if moment.microsecond = 0 then "" else "." ++ paddedDecimal 6 moment.microsecond) ++
    (moment.offset.elim "" offsetText)

/-- The offset as a constructor call. -/
def inspectOffset (minutes : Int) : String :=
  if minutes = 0 then "datetime.timezone.utc"
  else "datetime.timezone(" ++ minutesAsDelta minutes ++ ")"

/-- The moment as a constructor call; seconds are left out with the microseconds when both are
zero. -/
def inspect (moment : Moment) : String :=
  let date := moment.date
  let numbers := [date.year, date.month, date.day, moment.hour, moment.minute] ++
    (if moment.second = 0 ∧ moment.microsecond = 0 then [] else [moment.second]) ++
    (if moment.microsecond = 0 then [] else [moment.microsecond])
  "datetime.datetime(" ++ ", ".intercalate (numbers.map fun n => Number.decimal (n : Nat)) ++
    (moment.offset.elim "" fun minutes => ", tzinfo=" ++ inspectOffset minutes) ++ ")"

end Moment

namespace CalendarError

def message : CalendarError → String
  | year value => "year " ++ Number.decimal value ++ " is out of range"
  | month => "month must be in 1..12"
  | day => "day is out of range for month"
  | hour => "hour must be in 0..23"
  | minute => "minute must be in 0..59"
  | second => "second must be in 0..59"
  | offset minutes =>
      "offset must be a timedelta strictly between -timedelta(hours=24) and " ++
        "timedelta(hours=24), not " ++ minutesAsDelta minutes ++ "."

end CalendarError

end Canopen
