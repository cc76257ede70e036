/-!
# Dates and times

The moments that a settings file can write: a date, a time of day, or both, then with or
without the distance from universal time. A moment has a text of its own and a form in
which it stands inside another value.
-/

namespace LineRules

/-- A number with leading zeros up to a width. -/
def padded (width value : Nat) : String :=
  let digits := Nat.toDigits 10 value
  String.ofList (List.replicate (width - digits.length) '0' ++ digits)

/-- The number of days of a month. -/
def daysOfMonth (year month : Nat) : Nat :=
  if month = 2 then
    if year % 4 = 0 && (year % 100 ≠ 0 || year % 400 = 0) then 29 else 28
  else if month = 4 || month = 6 || month = 9 || month = 11 then 30
  else 31

/-- A date. -/
structure Date where
  year : Nat
  month : Nat
  day : Nat
deriving Repr, DecidableEq

namespace Date

/-- Whether the calendar has the date. -/
def isValid (date : Date) : Bool :=
  1 ≤ date.year && 1 ≤ date.month && date.month ≤ 12 && 1 ≤ date.day
    && date.day ≤ daysOfMonth date.year date.month

/-- The text of a date. -/
def shown (date : Date) : String :=
  padded 4 date.year ++ "-" ++ padded 2 date.month ++ "-" ++ padded 2 date.day

/-- The numbers of a date. -/
def fields (date : Date) : List Nat := [date.year, date.month, date.day]

end Date

/-- A time of day. -/
structure TimeOfDay where
  hour : Nat
  minute : Nat
  second : Nat
  /-- Millionths of a second. -/
  micros : Nat
deriving Repr, DecidableEq

namespace TimeOfDay

/-- The text of a time, with six digits for the fraction of a second unless that is
zero. -/
def shown (time : TimeOfDay) : String :=
  padded 2 time.hour ++ ":" ++ padded 2 time.minute ++ ":" ++ padded 2 time.second
    ++ if time.micros = 0 then "" else "." ++ padded 6 time.micros

/-- The numbers of a time, without seconds and millionths that are zero at its end. -/
def fields (time : TimeOfDay) : List Nat :=
  [time.hour, time.minute] ++
    if time.micros ≠ 0 then [time.second, time.micros]
    else if time.second ≠ 0 then [time.second]
    else []

end TimeOfDay

/-- The distance from universal time, in minutes; east of it is positive. -/
structure Offset where
  minutes : Int
deriving Repr, DecidableEq

namespace Offset

/-- The text of a distance. -/
def shown (offset : Offset) : String :=
  let size := offset.minutes.natAbs
  (if offset.minutes < 0 then "-" else "+") ++ padded 2 (size / 60) ++ ":"
    ++ padded 2 (size % 60)

/-- A distance as it stands inside another value: in days and seconds, of which only the
days can be negative. -/
def quoted (offset : Offset) : String :=
  if offset.minutes = 0 then "datetime.timezone.utc"
  else
    let seconds := offset.minutes * 60
    let days := seconds.fdiv 86400
    let rest := seconds.fmod 86400
    let parts := (if days = 0 then [] else ["days=" ++ toString days])
      ++ (if rest = 0 then [] else ["seconds=" ++ toString rest])
    "datetime.timezone(datetime.timedelta(" ++ ", ".intercalate parts ++ "))"

end Offset

/-- A date, a time, or both. -/
inductive Moment where
  | date (day : Date)
  | time (clock : TimeOfDay)
  | datetime (day : Date) (clock : TimeOfDay) (offset : Option Offset)
deriving Repr, DecidableEq

namespace Moment

/-- The name of a moment's kind, as error messages give it. -/
def kindName : Moment → String
  | date _ => "date"
  | time _ => "time"
  | datetime _ _ _ => "datetime"

/-- The text of a moment. -/
def shown : Moment → String
  | date day => day.shown
  | time clock => clock.shown
  | datetime day clock offset =>
    day.shown ++ " " ++ clock.shown ++ (offset.map Offset.shown).getD ""

/-- A moment as it stands inside another value: its kind and its numbers. -/
def quoted (moment : Moment) : String :=
  let arguments := match moment with
    | date day => day.fields.map toString
    | time clock => clock.fields.map toString
    | datetime day clock offset =>
      (day.fields ++ clock.fields).map toString
        ++ (offset.map fun offset => "tzinfo=" ++ offset.quoted).toList
  "datetime." ++ moment.kindName ++ "(" ++ ", ".intercalate arguments ++ ")"

end Moment

end LineRules
