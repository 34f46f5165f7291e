import RowSignals.Calendar.Date

/-!
# Instants

An instant is a second of Coordinated Universal Time with a fraction in nanoseconds. A leap
second is written as the second before it with a fraction of a whole second or more, so that the
number of seconds since 1970 stays that of the days, hours and minutes.

* `Instant`: seconds since 1970 and nanoseconds; `Instant.before` is their order.
* `Instant.date`, `Instant.secondOfDay`: the two parts of an instant.
* `Instant.millisSince`: whole milliseconds between two instants.
* `Instant.millis`: whole milliseconds since 1970.
* `Instant.text`: date and time of day, `offsetText`: a zone offset.
-/

namespace RowSignals.Calendar

/-- Seconds since 1970-01-01 00:00:00 UTC, and nanoseconds. -/
structure Instant where
  seconds : Int
  nanos : Nat
  deriving Repr, DecidableEq, Inhabited

/-- Whether one instant comes before another. -/
def Instant.before (a b : Instant) : Bool :=
  a.seconds < b.seconds || (a.seconds == b.seconds && a.nanos < b.nanos)

/-- The second of the day. -/
def Instant.secondOfDay (i : Instant) : Int :=
  i.seconds % 86400

/-- The date. -/
def Instant.date (i : Instant) : Date :=
  Date.ofDays (i.seconds / 86400)

/-- Nanoseconds from `earlier` to `later`. Within a day, a leap second that lies between the two
times of day counts as a second. -/
def Instant.nanosSince (later earlier : Instant) : Int :=
  let leap : Int :=
    if earlier.secondOfDay < later.secondOfDay ∧ 1000000000 ≤ earlier.nanos then 1
    else if later.secondOfDay < earlier.secondOfDay ∧ 1000000000 ≤ later.nanos then -1
    else 0
  (later.seconds - earlier.seconds + leap) * 1000000000 + ((later.nanos : Int) - earlier.nanos)

/-- Whole milliseconds from `earlier` to `later`, cut off towards zero. -/
def Instant.millisSince (later earlier : Instant) : Int :=
  Int.tdiv (later.nanosSince earlier) 1000000

/-- Whole milliseconds since 1970, rounded down. -/
def Instant.millis (i : Instant) : Int :=
  i.seconds * 1000 + i.nanos / 1000000

/-- The instant some milliseconds later. -/
def Instant.addMillis (i : Instant) (ms : Int) : Instant :=
  let nanos := (i.nanos : Int) + ms * 1000000
  ⟨i.seconds + nanos / 1000000000, (nanos % 1000000000).toNat⟩

/-- A natural number in at least `width` digits. -/
def padded (width n : Nat) : String :=
  let digits := toString n
  String.ofList (List.replicate (width - digits.length) '0') ++ digits

/-- A year in at least four digits, with a sign outside the years 0 to 9999. -/
def yearText (year : Int) : String :=
  let digits := padded 4 year.natAbs
  if year < 0 then "-" ++ digits else if 9999 < year then "+" ++ digits else digits

/-- A fraction of a second in the fewest groups of three digits; nothing for a whole second. -/
def fractionText (nanos : Nat) : String :=
  if nanos = 0 then ""
  else if nanos % 1000000 = 0 then "." ++ padded 3 (nanos / 1000000)
  else if nanos % 1000 = 0 then "." ++ padded 6 (nanos / 1000)
  else "." ++ padded 9 nanos

/-- The date of an instant. -/
def Instant.dateText (i : Instant) : String :=
  let d := i.date
  yearText d.year ++ "-" ++ padded 2 d.month ++ "-" ++ padded 2 d.day

/-- The time of day of an instant, with the fraction of the second. -/
def Instant.clockText (i : Instant) : String :=
  let s := i.secondOfDay.toNat
  -- a leap second is shown as second 60
  padded 2 (s / 3600) ++ ":" ++ padded 2 (s / 60 % 60) ++ ":" ++
    padded 2 (s % 60 + i.nanos / 1000000000) ++ fractionText (i.nanos % 1000000000)

/-- Date and time of day. -/
def Instant.text (i : Instant) : String :=
  i.dateText ++ " " ++ i.clockText

/-- Date and time of day in the Internet format. -/
def Instant.universalText (i : Instant) : String :=
  i.dateText ++ "T" ++ i.clockText ++ "Z"

/-- An offset from universal time in hours and minutes, rounded to the nearest minute. -/
def offsetText (offset : Int) : String :=
  let minutes := (offset.natAbs + 30) / 60
  (if offset < 0 then "-" else "+") ++ padded 2 (minutes / 60) ++ ":" ++ padded 2 (minutes % 60)

end RowSignals.Calendar
