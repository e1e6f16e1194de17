/-!
# Dates and times

A moment is a day of the calendar, perhaps with a time of that day, and then perhaps with an offset
from universal time.  Moments with an offset are the same when they fall on the same instant,
whatever their clocks show; other moments are the same when they are written alike.

## What is here

* `daysIn`, `dayNumber`: the calendar.
* `Moment`, with `instant` and `isSame`.
* `Moment.shown`: a moment as messages show it.
-/

set_option autoImplicit false
namespace JumpLint

/-! ## The calendar -/

/-- Whether a year has a 29th of February. -/
def isLeapYear (year : Nat) : Bool := (year % 4 == 0 && year % 100 != 0) || year % 400 == 0

/-- The days of a month. -/
def daysIn (year month : Nat) : Nat :=
  if month == 2 then
    if isLeapYear year then 29 else 28
  else if month == 4 || month == 6 || month == 9 || month == 11 then 30
  else 31

/-- The days of a year before a month. -/
def daysBefore (year : Nat) : Nat → Nat
  | 0 => 0
  | 1 => 0
  | month + 2 => daysBefore year (month + 1) + daysIn year (month + 1)

/-- The days before a year, from the year one on. -/
def daysBeforeYear (year : Nat) : Nat :=
  let past := year - 1
  past * 365 + past / 4 - past / 100 + past / 400

/-- The number of a day; the first day of the year one has number one. -/
def dayNumber (year month day : Nat) : Nat := daysBeforeYear year + daysBefore year month + day

/-! ## Moments -/

/-- A time of the day. -/
structure Clock where
  hour : Nat
  minute : Nat
  second : Nat
  micro : Nat
deriving Repr, DecidableEq

/-- A date, or a date with a time.  The offset from universal time is in minutes. -/
structure Moment where
  year : Nat
  month : Nat
  day : Nat
  clock : Option Clock
  offset : Option Int
deriving Repr, DecidableEq

namespace Moment

/-- The microseconds of a day before a time. -/
def microsOf (c : Clock) : Nat := ((c.hour * 60 + c.minute) * 60 + c.second) * 1000000 + c.micro

/-- The instant of a moment, in microseconds of universal time; without an offset the clock is taken
to show universal time. -/
def instant (m : Moment) : Int :=
  (dayNumber m.year m.month m.day * 86400000000 + (m.clock.map microsOf).getD 0 : Nat) -
    m.offset.getD 0 * 60000000

/-- Whether two moments are the same. -/
def isSame (a b : Moment) : Bool :=
  if a.offset.isSome && b.offset.isSome then a.instant == b.instant else a == b

/-- A span of minutes as days and seconds, the seconds not negative. -/
def spanText (minutes : Int) : String :=
  let days := minutes / 1440
  let seconds := minutes % 1440 * 60
  let parts :=
    (if days != 0 then ["days=" ++ toString days] else []) ++
      (if seconds != 0 then ["seconds=" ++ toString seconds] else [])
  "datetime.timedelta(" ++ (if parts.isEmpty then "0" else ", ".intercalate parts) ++ ")"

/-- An offset as messages show it. -/
def offsetText (minutes : Int) : String :=
  if minutes == 0 then "datetime.timezone.utc" else "datetime.timezone(" ++ spanText minutes ++ ")"

/-- A moment as messages show it: seconds and their fractions only as far as they are not zero. -/
def shown (m : Moment) : String :=
  let date := [m.year, m.month, m.day].map toString
  match m.clock with
  | none => "datetime.date(" ++ ", ".intercalate date ++ ")"
  | some c =>
    let small :=
      if c.micro != 0 then [c.second, c.micro] else if c.second != 0 then [c.second] else []
    let clock := ([c.hour, c.minute] ++ small).map toString
    let zone := m.offset.toList.map fun minutes => "tzinfo=" ++ offsetText minutes
    "datetime.datetime(" ++ ", ".intercalate (date ++ clock ++ zone) ++ ")"

end Moment
end JumpLint
