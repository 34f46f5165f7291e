import RowSignals.Calendar.Instant

/-!
# Fields of a timestamp

Reading a timestamp collects its fields one by one: a year, a week, an hour of twelve, and so
on. Afterwards the fields are put together: some of them determine the date and the time of day,
the others must agree with these.

* `Fields`: the fields read so far, and one setter per field, which fails on a value out of
  range or in conflict with an earlier one.
* `Fields.resolveYear`: a full year from its parts.
* `Fields.candidate`: the date that some of the fields determine, checked against the others.
* `Fields.date`, `Fields.time`: date and time of day.
* `Fields.local?`, `Fields.zoned?`: the timestamp without and with its offset.

Two ways to fail are told apart (`Gap`), because what is missing may still come from a timestamp
in seconds, and what is impossible may not.
-/

namespace RowSignals.Calendar

/-- The fields of a timestamp that have been read. -/
structure Fields where
  year : Option Int := none
  century : Option Int := none
  yearOfCentury : Option Int := none
  isoYear : Option Int := none
  isoCentury : Option Int := none
  isoYearOfCentury : Option Int := none
  quarter : Option Int := none
  month : Option Int := none
  weekFromSunday : Option Int := none
  weekFromMonday : Option Int := none
  isoWeek : Option Int := none
  weekday : Option Int := none
  ordinal : Option Int := none
  day : Option Int := none
  halfDay : Option Int := none
  hour12 : Option Int := none
  minute : Option Int := none
  second : Option Int := none
  nanosecond : Option Int := none
  timestamp : Option Int := none
  offset : Option Int := none
  deriving Repr

/-- Why fields do not make a timestamp: some are missing, or they contradict each other or the
calendar. -/
inductive Gap where
  | missing
  | impossible
  deriving Repr, DecidableEq

/-! ## Setters -/

/-- A field's new value, unless it is out of range or differs from an earlier one. -/
def agree (low high : Int) (old : Option Int) (value : Int) : Option (Option Int) :=
  if value < low || high < value then none
  else match old with
    | some earlier => if earlier = value then some (some value) else none
    | none => some (some value)

/-- The least and the greatest year that a field can hold. -/
def fieldYearMin : Int := -(1 <<< 31)

/-- See `fieldYearMin`. -/
def fieldYearMax : Int := (1 <<< 31) - 1

namespace Fields

def setYear (f : Fields) (v : Int) : Option Fields :=
  (agree fieldYearMin fieldYearMax f.year v).map fun x => { f with year := x }

def setCentury (f : Fields) (v : Int) : Option Fields :=
  (agree 0 fieldYearMax f.century v).map fun x => { f with century := x }

def setYearOfCentury (f : Fields) (v : Int) : Option Fields :=
  (agree 0 99 f.yearOfCentury v).map fun x => { f with yearOfCentury := x }

def setIsoYear (f : Fields) (v : Int) : Option Fields :=
  (agree fieldYearMin fieldYearMax f.isoYear v).map fun x => { f with isoYear := x }

def setIsoYearOfCentury (f : Fields) (v : Int) : Option Fields :=
  (agree 0 99 f.isoYearOfCentury v).map fun x => { f with isoYearOfCentury := x }

def setQuarter (f : Fields) (v : Int) : Option Fields :=
  (agree 1 4 f.quarter v).map fun x => { f with quarter := x }

def setMonth (f : Fields) (v : Int) : Option Fields :=
  (agree 1 12 f.month v).map fun x => { f with month := x }

def setWeekFromSunday (f : Fields) (v : Int) : Option Fields :=
  (agree 0 53 f.weekFromSunday v).map fun x => { f with weekFromSunday := x }

def setWeekFromMonday (f : Fields) (v : Int) : Option Fields :=
  (agree 0 53 f.weekFromMonday v).map fun x => { f with weekFromMonday := x }

def setIsoWeek (f : Fields) (v : Int) : Option Fields :=
  (agree 1 53 f.isoWeek v).map fun x => { f with isoWeek := x }

/-- The weekday, 0 for Monday. -/
def setWeekday (f : Fields) (v : Int) : Option Fields :=
  (agree 0 6 f.weekday v).map fun x => { f with weekday := x }

def setOrdinal (f : Fields) (v : Int) : Option Fields :=
  (agree 1 366 f.ordinal v).map fun x => { f with ordinal := x }

def setDay (f : Fields) (v : Int) : Option Fields :=
  (agree 1 31 f.day v).map fun x => { f with day := x }

/-- The half of the day, 0 before noon. -/
def setHalfDay (f : Fields) (v : Int) : Option Fields :=
  (agree 0 1 f.halfDay v).map fun x => { f with halfDay := x }

/-- The hour of a twelve-hour clock, 12 for the first. -/
def setHour12 (f : Fields) (v : Int) : Option Fields :=
  if v < 1 || 12 < v then none
  else (agree 0 11 f.hour12 (v % 12)).map fun x => { f with hour12 := x }

/-- The hour of the day. -/
def setHour (f : Fields) (v : Int) : Option Fields :=
  if v < 0 || 23 < v then none
  else do
    let f ← f.setHalfDay (v / 12)
    let x ← agree 0 11 f.hour12 (v % 12)
    pure { f with hour12 := x }

def setMinute (f : Fields) (v : Int) : Option Fields :=
  (agree 0 59 f.minute v).map fun x => { f with minute := x }

/-- The second, 60 for a leap second. -/
def setSecond (f : Fields) (v : Int) : Option Fields :=
  (agree 0 60 f.second v).map fun x => { f with second := x }

def setNanosecond (f : Fields) (v : Int) : Option Fields :=
  (agree 0 999999999 f.nanosecond v).map fun x => { f with nanosecond := x }

def setTimestamp (f : Fields) (v : Int) : Option Fields :=
  (agree (-(1 <<< 63)) ((1 <<< 63) - 1) f.timestamp v).map fun x => { f with timestamp := x }

def setOffset (f : Fields) (v : Int) : Option Fields :=
  (agree fieldYearMin fieldYearMax f.offset v).map fun x => { f with offset := x }

/-! ## Putting fields together -/

/-- A full year from itself, its century and its year of the century. Without a century, years
up to 69 are of the twenty-first. -/
def resolveYear (year century ofCentury : Option Int) : Except Gap (Option Int) :=
  match year, century, ofCentury with
  | y, none, none => .ok y
  -- no century is known for the years before 0
  | some y, q, r =>
    if y < 0 then .error .impossible
    else if q.getD (y / 100) = y / 100 ∧ r.getD (y % 100) = y % 100 then .ok (some y)
    else .error .impossible
  | none, some q, some r =>
    if fieldYearMax < q * 100 + r then .error .impossible else .ok (some (q * 100 + r))
  | none, none, some r => .ok (some (r + if r < 70 then 2000 else 1900))
  | none, some _, none => .error .missing

/-- Whether a field is absent or has the given value. -/
def allows (field : Option Int) (value : Int) : Bool :=
  field.all (· == value)

/-- Whether century fields are absent or fit a year; none fits a year before 0. -/
def allowsCentury (century ofCentury : Option Int) (year : Int) : Bool :=
  if 0 ≤ year then allows century (year / 100) && allows ofCentury (year % 100)
  else century.isNone && ofCentury.isNone

/-- Whether year, month and day fields fit a date. -/
def allowsMonthDay (f : Fields) (d : Date) : Bool :=
  allows f.year d.year && allowsCentury f.century f.yearOfCentury d.year &&
    allows f.month d.month && allows f.day d.day

/-- Whether the fields of the ISO calendar fit a date. -/
def allowsIsoWeek (f : Fields) (d : Date) : Bool :=
  let (year, week) := d.isoWeek
  allows f.isoYear year && allowsCentury f.isoCentury f.isoYearOfCentury year &&
    allows f.isoWeek week && allows f.weekday d.weekday

/-- Whether the day of the year and the week fields fit a date. -/
def allowsOrdinal (f : Fields) (d : Date) : Bool :=
  allows f.ordinal d.ordinal && allows f.weekFromSunday (d.weekFrom 6) &&
    allows f.weekFromMonday (d.weekFrom 0)

/-- The date of a weekday in a week of a year whose weeks start on `start`. -/
def weekDate? (year : Int) (week weekday : Int) (start : Nat) : Option Date :=
  match Date.ofOrdinal? year 1 with
  | none => none
  | some first =>
    let firstStart : Int := 1 + daysSince start first.weekday
    let ordinal := firstStart + (week - 1) * 7 + daysSince weekday.toNat start
    if ordinal ≤ 0 then none else Date.ofOrdinal? year ordinal.toNat

/-- A candidate date with the fields that it must still fit. -/
def verify (found : Option Date) (fits : Date → Bool) : Except Gap Date :=
  match found with
  | some d => if fits d then .ok d else .error .impossible
  | none => .error .impossible

/-- The date that a full year and a full ISO year, if known, determine with the other fields. -/
def candidate (f : Fields) (year isoYear : Option Int) : Except Gap Date :=
  let fitsAll (d : Date) : Bool :=
    f.allowsMonthDay d && f.allowsIsoWeek d && f.allowsOrdinal d
  let byIsoWeek : Except Gap Date :=
    match isoYear, f.isoWeek, f.weekday with
    | some y, some week, some weekday =>
      verify (Date.ofIsoWeek? y week.toNat weekday.toNat) fun d =>
        f.allowsMonthDay d && f.allowsOrdinal d
    | _, _, _ => .error .missing
  match year with
  | none => byIsoWeek
  | some y =>
    -- the first of these combinations that is complete counts
    match f.month, f.day, f.ordinal, f.weekday, f.weekFromSunday, f.weekFromMonday with
    | some month, some day, _, _, _, _ =>
      verify (Date.of? y month.toNat day.toNat) fun d => f.allowsIsoWeek d && f.allowsOrdinal d
    | _, _, some ordinal, _, _, _ => verify (Date.ofOrdinal? y ordinal.toNat) fitsAll
    | _, _, _, some weekday, some week, _ => verify (weekDate? y week weekday 6) fitsAll
    | _, _, _, some weekday, _, some week => verify (weekDate? y week weekday 0) fitsAll
    | _, _, _, _, _, _ => byIsoWeek

/-- The date. -/
def date (f : Fields) : Except Gap Date := do
  let year ← resolveYear f.year f.century f.yearOfCentury
  let isoYear ← resolveYear f.isoYear f.isoCentury f.isoYearOfCentury
  let d ← f.candidate year isoYear
  if allows f.quarter d.quarter then pure d else throw .impossible

/-- The time of day in seconds, and nanoseconds. A fraction needs a second; a missing second is
zero. -/
def time (f : Fields) : Except Gap (Int × Nat) :=
  match f.halfDay, f.hour12, f.minute with
  | some half, some hour, some minute =>
    let second := f.second.getD 0
    let (second, leap) := if second = 60 then (59, 1000000000) else (second, 0)
    match f.nanosecond, f.second with
    | some _, none => .error .missing
    | nanos, _ =>
      .ok ((half * 12 + hour) * 3600 + minute * 60 + second, leap + (nanos.getD 0).toNat)
  | _, _, _ => .error .missing

/-- A date and a time of day as an instant of universal time. -/
def instantOf (d : Date) (time : Int × Nat) : Instant :=
  ⟨d.days * 86400 + time.1, time.2⟩

/-- Whether the calendar covers an instant. -/
def covers (i : Instant) : Bool :=
  coversYear i.date.year

/-- The fields completed from a timestamp whose local reading is `i`. -/
def complete (f : Fields) (i : Instant) : Option Fields := do
  let second := i.secondOfDay % 60
  -- a leap second is read as the second before it or as the one after it
  let (f, i) ←
    if f.second = some 60 then
      if second = 59 then some (f, i)
      else if second = 0 then some (f, ⟨i.seconds - 1, i.nanos⟩)
      else none
    else (f.setSecond second).map (·, i)
  let d := i.date
  let f ← f.setYear d.year
  let f ← f.setOrdinal d.ordinal
  let f ← f.setHour (i.secondOfDay / 3600)
  f.setMinute (i.secondOfDay / 60 % 60)

/-- The timestamp in local time, when local time is `offset` seconds ahead of universal time. -/
def local? (f : Fields) (offset : Int) : Option Instant :=
  match f.date, f.time with
  | .ok d, .ok t =>
    let i := instantOf d t
    match f.timestamp with
    | none => some i
    | some given =>
      let actual := i.seconds - offset
      if given = actual ∨ (1000000000 ≤ i.nanos ∧ given = actual + 1) then some i else none
  -- what is missing is taken from the timestamp, and the whole is checked once more
  | d, t =>
    match f.timestamp with
    | none => none
    | some given =>
      if d matches .error .impossible then none
      else if t matches .error .impossible then none
      else
        let i : Instant := ⟨given + offset, 0⟩
        if covers i then do
          let f ← f.complete i
          match f.date, f.time with
          | .ok d, .ok t => some (instantOf d t)
          | _, _ => none
        else none

/-- The timestamp as an instant, from its own offset; a timestamp in seconds needs none. -/
def zoned? (f : Fields) : Option Instant := do
  let offset ← match f.offset, f.timestamp with
    | some offset, _ => some offset
    | none, some _ => some 0
    | none, none => none
  let i ← f.local? offset
  if -86400 < offset && offset < 86400 then
    let i : Instant := ⟨i.seconds - offset, i.nanos⟩
    if covers i then pure i else none
  else none

end Fields

end RowSignals.Calendar
