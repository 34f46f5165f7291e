/-!
# Dates

The proleptic Gregorian calendar. A date is a year with a month and a day; days are counted from
1970-01-01.

* `isLeap`, `yearLength`, `monthLength`: lengths.
* `Date`: year, month and day, in the years that the calendar covers.
* `daysBeforeYear`, `Date.days`, `Date.ofDays`: dates to day counts and back.
* `Date.ordinal`, `Date.weekday`, `Date.isoWeek`: the day of the year, the day of the week, the
  week of the ISO calendar.
* `Date.of?`, `Date.ofOrdinal?`, `Date.ofIsoWeek?`: the date that some numbers name, if they
  name one.

No step counts years or days one by one, so that a date at either end of the calendar takes no
longer than one of today.
-/

namespace RowSignals.Calendar

/-- Whether a year has a 29 February. -/
def isLeap (year : Int) : Bool :=
  year % 4 == 0 && (year % 100 != 0 || year % 400 == 0)

/-- The number of days of a year. -/
def yearLength (year : Int) : Nat :=
  if isLeap year then 366 else 365

/-- The number of days of a month. -/
def monthLength (year : Int) (month : Nat) : Nat :=
  match month with
  | 2 => if isLeap year then 29 else 28
  | 4 | 6 | 9 | 11 => 30
  | _ => 31

/-- The number of days of the months before a month of a year. -/
def daysBeforeMonth (year : Int) (month : Nat) : Nat :=
  (List.range (month - 1)).foldl (fun days m => days + monthLength year (m + 1)) 0

/-- The number of days from 1970-01-01 to the first day of a year. -/
def daysBeforeYear (year : Int) : Int :=
  let before := year - 1
  -- of the years before 1970, 492 are multiples of 4, 19 of 100 and 4 of 400
  365 * (year - 1970) + (before / 4 - 492) - (before / 100 - 19) + (before / 400 - 4)

/-- A day of the calendar. -/
structure Date where
  year : Int
  month : Nat
  day : Nat
  deriving Repr, DecidableEq

/-- Whether the calendar covers a year. -/
def coversYear (year : Int) : Bool :=
  -262143 ≤ year && year ≤ 262142

/-- The date of a year, month and day, if there is one. -/
def Date.of? (year : Int) (month day : Nat) : Option Date :=
  if coversYear year && 1 ≤ month && month ≤ 12 && 1 ≤ day && day ≤ monthLength year month then
    some ⟨year, month, day⟩
  else none

/-- The day of the year, from 1. -/
def Date.ordinal (d : Date) : Nat :=
  daysBeforeMonth d.year d.month + d.day

/-- The number of days since 1970-01-01. -/
def Date.days (d : Date) : Int :=
  daysBeforeYear d.year + d.ordinal - 1

/-- The date of a day of a year, found by taking whole months off the front. -/
def Date.ofOrdinal (year : Int) (ordinal : Nat) : Date :=
  let months := (List.range 12).map (· + 1)
  let month := ((months.filter fun m => daysBeforeMonth year m < ordinal).getLast?).getD 1
  ⟨year, month, ordinal - daysBeforeMonth year month⟩

/-- The date of a day of a year, if the year is covered and has the day. -/
def Date.ofOrdinal? (year : Int) (ordinal : Nat) : Option Date :=
  if coversYear year && 1 ≤ ordinal && ordinal ≤ yearLength year then
    some (Date.ofOrdinal year ordinal)
  else none

/-- The date of a number of days since 1970-01-01. The mean length of a year gives the year up
to one. -/
def Date.ofDays (days : Int) : Date :=
  -- 400 years have 146097 days
  let guess := Int.fdiv (400 * days) 146097 + 1970
  let year :=
    if days < daysBeforeYear guess then guess - 1
    else if daysBeforeYear (guess + 1) ≤ days then guess + 1
    else guess
  Date.ofOrdinal year (days - daysBeforeYear year + 1).toNat

/-- The day of the week, 0 for Monday to 6 for Sunday. -/
def Date.weekday (d : Date) : Nat :=
  ((d.days + 3) % 7).toNat

/-- The quarter of the year, from 1. -/
def Date.quarter (d : Date) : Nat :=
  (d.month - 1) / 3 + 1

/-- How many days after the weekday `start` the weekday `day` comes. -/
def daysSince (day start : Nat) : Nat :=
  (day + 7 - start) % 7

/-- The week of the year when weeks start on the given weekday; the days before the first start
are week 0. -/
def Date.weekFrom (d : Date) (start : Nat) : Nat :=
  (d.ordinal + 6 - daysSince d.weekday start) / 7

/-- The day count of the Monday of week 1 of an ISO year, the week of 4 January. -/
def isoYearStart (year : Int) : Int :=
  let fourth := daysBeforeYear year + 3
  -- 1970-01-01 was a Thursday
  fourth - (fourth + 3) % 7

/-- The year and week of the ISO calendar. -/
def Date.isoWeek (d : Date) : Int × Nat :=
  let days := d.days
  let year :=
    if days < isoYearStart d.year then d.year - 1
    else if isoYearStart (d.year + 1) ≤ days then d.year + 1
    else d.year
  (year, ((days - isoYearStart year) / 7).toNat + 1)

/-- The date of a weekday in a week of an ISO year, if the year has that week. -/
def Date.ofIsoWeek? (year : Int) (week weekday : Nat) : Option Date :=
  let weeks := ((isoYearStart (year + 1) - isoYearStart year) / 7).toNat
  if coversYear year && 1 ≤ week && week ≤ weeks then
    let d := Date.ofDays (isoYearStart year + 7 * ((week : Int) - 1) + weekday)
    if coversYear d.year then some d else none
  else none

end RowSignals.Calendar
