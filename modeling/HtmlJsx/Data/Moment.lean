import HtmlJsx.Text.Basic

/-!
# Dates and times

The points in time that configuration documents can hold: a date, a time of
day, or both, possibly with an offset from universal time in seconds.
-/

namespace HtmlJsx

/-- A day of the calendar. -/
structure Date where
  year : Nat
  month : Nat
  day : Nat
  deriving Repr, DecidableEq

/-- A time of day to the microsecond. -/
structure ClockTime where
  hour : Nat
  minute : Nat
  second : Nat
  microsecond : Nat
  deriving Repr, DecidableEq

/-- A point in time. -/
inductive Moment where
  | date (day : Date)
  | time (clock : ClockTime)
  | dateTime (day : Date) (clock : ClockTime) (offset : Option Int)
  deriving Repr, DecidableEq

namespace Date

/-- Whether a year has a leap day. -/
def isLeapYear (year : Nat) : Bool :=
  year % 4 == 0 && (year % 100 != 0 || year % 400 == 0)

/-- The number of days of a month. -/
def daysInMonth (year month : Nat) : Nat :=
  if month = 2 then (if isLeapYear year then 29 else 28)
  else if month = 4 ∨ month = 6 ∨ month = 9 ∨ month = 11 then 30
  else 31

/-- The number of days from the first day of the calendar to a date. -/
def dayNumber (date : Date) : Nat :=
  let past := date.year - 1
  let months := (List.range (date.month - 1)).foldl
    (fun days month => days + daysInMonth date.year (month + 1)) 0
  past * 365 + past / 4 - past / 100 + past / 400 + months + (date.day - 1)

/-- Whether a date exists; years are counted from one to 9999. -/
def isValid (date : Date) : Bool :=
  1 ≤ date.year && date.year ≤ 9999 && 1 ≤ date.month && date.month ≤ 12 && 1 ≤ date.day &&
    date.day ≤ daysInMonth date.year date.month

end Date

/-- The number of microseconds from midnight to a time of day. -/
def ClockTime.microseconds (time : ClockTime) : Nat :=
  ((time.hour * 60 + time.minute) * 60 + time.second) * 1000000 + time.microsecond

/-- Whether a time of day exists. -/
def ClockTime.isValid (time : ClockTime) : Bool :=
  time.hour < 24 && time.minute < 60 && time.second < 60 && time.microsecond < 1000000

namespace Moment

/-- The name of the kind of a moment. -/
def kind : Moment → Text
  | .date _ => "date".toList
  | .time _ => "time".toList
  | .dateTime _ _ _ => "datetime".toList

/-- The microseconds from the start of the calendar to a date and time with an offset. -/
def universal (day : Date) (clock : ClockTime) (offset : Int) : Int :=
  day.dayNumber * 86400000000 + clock.microseconds - offset * 1000000

/-- Whether two moments are the same; those with offsets compare by universal time. -/
def same : Moment → Moment → Bool
  | .dateTime day clock (some offset), .dateTime otherDay otherClock (some otherOffset) =>
    universal day clock offset == universal otherDay otherClock otherOffset
  | left, right => left == right

/-- The fields of a time that are shown: seconds only if they or their fractions are not zero. -/
def clockFields (time : ClockTime) : List Nat :=
  [time.hour, time.minute] ++
    (if time.second = 0 ∧ time.microsecond = 0 then [] else [time.second]) ++
    (if time.microsecond = 0 then [] else [time.microsecond])

/-- An offset as it is shown. -/
def offsetText (offset : Int) : String :=
  if offset = 0 then
    "datetime.timezone.utc"
  else
    let days := offset / 86400
    let seconds := offset % 86400
    let shown := (if days = 0 then [] else [s!"days={days}"]) ++
      (if seconds = 0 then [] else [s!"seconds={seconds}"])
    "datetime.timezone(datetime.timedelta(" ++ ", ".intercalate shown ++ "))"

/-- A moment as it is shown in a message. -/
def display (moment : Moment) : Text :=
  let call (name : String) (numbers : List Nat) (extra : List String) : Text :=
    (name ++ "(" ++ ", ".intercalate (numbers.map toString ++ extra) ++ ")").toList
  match moment with
  | .date day => call "datetime.date" [day.year, day.month, day.day] []
  | .time clock => call "datetime.time" (clockFields clock) []
  | .dateTime day clock offset =>
    let zone := match offset with
      | none => []
      | some offset => ["tzinfo=" ++ offsetText offset]
    call "datetime.datetime" ([day.year, day.month, day.day] ++ clockFields clock) zone

end Moment

end HtmlJsx
