import RowSignals.Calendar.Fields
import RowSignals.Calendar.Pattern
import RowSignals.Number.Reading
import RowSignals.Text.Pieces

/-!
# Reading timestamps

A text is read from left to right against a list of items; every item takes a part of the text
and may set a field. No item is ever read in a second way: a number takes all digits it may
take.

* `scanNumber`, `scanName`, `scanOffset` and the like: one part of a text, with the rest of it.
* `readItem`, `readItems`: a text against the items of a pattern, field by field.
* `readInternet?`: the strict Internet format, such as `2024-03-01T11:00:00Z`.
* `readIso?`: the Internet format, or a date and a time of day without offset.
* `readPattern?`: a text against a pattern, with an offset or, failing that, without one.

A timestamp without an offset is universal time.
-/

namespace RowSignals.Calendar

/-! ## Scanners -/

/-- At least `low` and at most `high` digits as a number of 63 bits. -/
def scanNumber (low high : Nat) (cs : List Char) : Option (Int × List Char) :=
  let digits := (cs.take high).takeWhile Char.isDigit
  let n := Number.digitsValue digits
  if low ≤ digits.length ∧ n < 1 <<< 63 then some (n, cs.drop digits.length) else none

/-- A number with an optional sign; only without a sign its width is limited. -/
def scanSigned (width : Nat) : List Char → Option (Int × List Char)
  | '-' :: rest => (scanNumber 1 rest.length rest).map fun (n, rest) => (-n, rest)
  | '+' :: rest => scanNumber 1 rest.length rest
  | cs => scanNumber 1 width cs

/-- A character that must come next. -/
def scanChar (c : Char) : List Char → Option (List Char)
  | d :: rest => if c = d then some rest else none
  | [] => none

/-- A fraction of a second in nanoseconds; digits after the ninth are skipped. -/
def scanFraction (cs : List Char) : Option (Int × List Char) :=
  let digits := (cs.take 9).takeWhile Char.isDigit
  if digits.isEmpty then none
  else
    some (Number.digitsValue digits * Int.pow 10 (9 - digits.length), cs.dropWhile Char.isDigit)

/-- A fraction of a second of exactly so many digits. -/
def scanFixedFraction (count : Nat) (cs : List Char) : Option (Int × List Char) :=
  (scanNumber count count cs).map fun (n, rest) => (n * Int.pow 10 (9 - count), rest)

/-- The names of the months, in lower case. -/
def monthNames : List String :=
  ["january", "february", "march", "april", "may", "june", "july", "august", "september",
    "october", "november", "december"]

/-- The names of the weekdays, in lower case. -/
def weekdayNames : List String :=
  ["monday", "tuesday", "wednesday", "thursday", "friday", "saturday", "sunday"]

/-- What follows a text, small and capital letters being the same. -/
def stripFolded? (word cs : List Char) : Option (List Char) :=
  if (cs.take word.length).map Char.toLower = word then some (cs.drop word.length) else none

/-- One of some names by its first three letters, or by all of them when `long` is set. The
result is the place of the name, from 0. -/
def scanName (names : List String) (long : Bool) (cs : List Char) : Option (Int × List Char) :=
  names.zipIdx.findSome? fun (name, i) =>
    (stripFolded? (name.toList.take 3) cs).map fun rest =>
      let longer := if long then stripFolded? (name.toList.drop 3) rest else none
      ((i : Int), longer.getD rest)

/-- A text without its leading colons and blanks. -/
def skipColons (cs : List Char) : List Char :=
  cs.dropWhile fun c => c == ':' || Text.isBlank c

/-- The sign of an offset, true for minus: hyphen or minus sign. -/
def scanOffsetSign : List Char → Option (Bool × List Char)
  | '+' :: rest => some (false, rest)
  | '-' :: rest => some (true, rest)
  | '−' :: rest => some (true, rest)
  | _ => none

/-- The minutes of an offset; a lenient one may end before them. -/
def scanOffsetMinutes (lenient : Bool) : List Char → Option (Int × List Char)
  | a :: b :: rest =>
    if '0' ≤ a && a ≤ '5' && b.isDigit then
      some (10 * (a.toNat - 48 : Int) + (b.toNat - 48 : Int), rest)
    else none
  | [] => if lenient then some (0, []) else none
  | _ => none

/-- An offset from universal time in seconds. Two digits of hours, the separator, two digits of
minutes. -/
def scanOffset (zulu lenient : Bool) (separator : List Char → Option (List Char))
    (cs : List Char) : Option (Int × List Char) :=
  match zulu, cs with
  | true, 'Z' :: rest | true, 'z' :: rest => some (0, rest)
  | _, cs => do
    let (negative, rest) ← scanOffsetSign cs
    let (hours, rest) ← scanNumber 2 2 rest
    let rest ← separator rest
    let (minutes, rest) ← scanOffsetMinutes lenient rest
    let seconds := hours * 3600 + minutes * 60
    pure (if negative then -seconds else seconds, rest)

/-! ## Items -/

/-- The greatest number of digits of a field without sign, and whether it may have a sign. -/
def NumberField.width : NumberField → Nat × Bool
  | .year | .isoYear => (4, true)
  | .ordinal => (3, false)
  | .nanosecond => (9, false)
  | .quarter | .weekdayFromSunday | .weekdayFromMonday => (1, false)
  | .timestamp => (19, true)
  | _ => (2, false)

/-- The fields with one more number. -/
def NumberField.set (field : NumberField) (f : Fields) (v : Int) : Option Fields :=
  match field with
  | .year => f.setYear v
  | .century => f.setCentury v
  | .yearOfCentury => f.setYearOfCentury v
  | .isoYear => f.setIsoYear v
  | .isoYearOfCentury => f.setIsoYearOfCentury v
  | .quarter => f.setQuarter v
  | .month => f.setMonth v
  | .day => f.setDay v
  | .weekFromSunday => f.setWeekFromSunday v
  | .weekFromMonday => f.setWeekFromMonday v
  | .isoWeek => f.setIsoWeek v
  | .weekdayFromSunday => if 0 ≤ v && v ≤ 6 then f.setWeekday ((v + 6) % 7) else none
  | .weekdayFromMonday => if 1 ≤ v && v ≤ 7 then f.setWeekday (v - 1) else none
  | .ordinal => f.setOrdinal v
  | .hour => f.setHour v
  | .hour12 => f.setHour12 v
  | .minute => f.setMinute v
  | .second => f.setSecond v
  | .nanosecond => f.setNanosecond v
  | .timestamp => f.setTimestamp v

/-- A number field, blanks before it skipped. -/
def readField (field : NumberField) (f : Fields) (cs : List Char) :
    Option (Fields × List Char) := do
  let cs := Text.trimStart cs
  let (width, signed) := field.width
  -- a timestamp in seconds may have any number of digits
  let width := if field = .timestamp then cs.length else width
  let (v, rest) ← if signed then scanSigned width cs else scanNumber 1 width cs
  let f ← field.set f v
  pure (f, rest)

/-- A number of exactly so many digits. -/
def readExact (count : Nat) (set : Fields → Int → Option Fields) (f : Fields) (cs : List Char) :
    Option (Fields × List Char) := do
  let (v, rest) ← scanNumber count count cs
  let f ← set f v
  pure (f, rest)

/-- A point and a fraction of a second, or nothing. -/
def readFraction (f : Fields) : List Char → Option (Fields × List Char)
  | '.' :: rest => do
    let (v, rest) ← scanFraction rest
    let f ← f.setNanosecond v
    pure (f, rest)
  | cs => some (f, cs)

/-- The letter between date and time of day. -/
def scanDateEnd : List Char → Option (List Char)
  | 't' :: rest | 'T' :: rest | ' ' :: rest => some rest
  | _ => none

/-- Date and time of day in the Internet format, blanks allowed before every part. -/
def readRelaxed (f : Fields) (cs : List Char) : Option (Fields × List Char) := do
  let (f, cs) ← readField .year f cs
  let cs ← scanChar '-' (Text.trimStart cs)
  let (f, cs) ← readField .month f cs
  let cs ← scanChar '-' (Text.trimStart cs)
  let (f, cs) ← readField .day f cs
  let cs ← scanDateEnd cs
  let (f, cs) ← readField .hour f cs
  let cs ← scanChar ':' (Text.trimStart cs)
  let (f, cs) ← readField .minute f cs
  let cs ← scanChar ':' (Text.trimStart cs)
  let (f, cs) ← readField .second f cs
  let (f, cs) ← readFraction f cs
  let cs := Text.trimStart cs
  let (offset, cs) ← match stripFolded? ['u', 't', 'c'] cs with
    | some rest => some (0, rest)
    | none => scanOffset true false (some ∘ skipColons) cs
  let f ← f.setOffset offset
  pure (f, cs)

/-- One item of a pattern. -/
def readItem (item : Item) (f : Fields) (cs : List Char) : Option (Fields × List Char) :=
  match item with
  | .literal text => (Text.stripStart? text cs).map (f, ·)
  | .blank => some (f, Text.trimStart cs)
  | .number field => readField field f cs
  | .monthName long => do
    let (month, rest) ← scanName monthNames long cs
    let f ← f.setMonth (month + 1)
    pure (f, rest)
  | .weekdayName long => do
    let (weekday, rest) ← scanName weekdayNames long cs
    let f ← f.setWeekday weekday
    pure (f, rest)
  | .halfDay =>
    match stripFolded? ['a', 'm'] cs, stripFolded? ['p', 'm'] cs with
    | some rest, _ => (f.setHalfDay 0).map (·, rest)
    | none, some rest => (f.setHalfDay 1).map (·, rest)
    | none, none => none
  | .fraction => readFraction f cs
  | .fractionOf digits =>
    match cs with
    | '.' :: rest => do
      let (v, rest) ← scanFixedFraction digits rest
      let f ← f.setNanosecond v
      pure (f, rest)
    | cs => some (f, cs)
  | .bareFraction digits => do
    let (v, rest) ← scanFixedFraction digits cs
    let f ← f.setNanosecond v
    pure (f, rest)
  | .zoneName => some (f, cs.dropWhile fun c => !Text.isBlank c)
  | .offset lenient => do
    let (v, rest) ← scanOffset lenient lenient (some ∘ skipColons) (Text.trimStart cs)
    let f ← f.setOffset v
    pure (f, rest)
  | .internet => readRelaxed f cs

/-- The fields of a text that the items match from its front to its end. -/
def readItems : List Item → Fields → List Char → Option Fields
  | [], f, cs => if cs.isEmpty then some f else none
  | item :: items, f, cs =>
    match readItem item f cs with
    | some (f, rest) => readItems items f rest
    | none => none

/-! ## Timestamps -/

/-- A timestamp in the Internet format with fixed widths and a colon in its offset. -/
def readInternet? (cs : List Char) : Option Instant := do
  let f : Fields := {}
  let (f, cs) ← readExact 4 Fields.setYear f cs
  let cs ← scanChar '-' cs
  let (f, cs) ← readExact 2 Fields.setMonth f cs
  let cs ← scanChar '-' cs
  let (f, cs) ← readExact 2 Fields.setDay f cs
  let cs ← scanDateEnd cs
  let (f, cs) ← readExact 2 Fields.setHour f cs
  let cs ← scanChar ':' cs
  let (f, cs) ← readExact 2 Fields.setMinute f cs
  let cs ← scanChar ':' cs
  let (f, cs) ← readExact 2 Fields.setSecond f cs
  let (f, cs) ← readFraction f cs
  let (offset, cs) ← scanOffset true false (scanChar ':') cs
  -- an offset has less than a day
  if 86340 < offset.natAbs then none
  else if !cs.isEmpty then none
  else do
    let f ← f.setOffset offset
    f.zoned?

private def isoDate : List Item :=
  [.number .year, .literal ['-'], .number .month, .literal ['-'], .number .day]

private def isoTime : List Item :=
  [.number .hour, .literal [':'], .number .minute, .literal [':'], .number .second, .fraction]

/-- A timestamp in the Internet format, or date and time of day without offset; blanks around it
are dropped. -/
def readIso? (text : String) : Option Instant :=
  let cs := Text.trim text.toList
  let reading (separator : Item) : Option Instant :=
    (readItems (isoDate ++ separator :: isoTime) {} cs).bind fun f => f.local? 0
  (readInternet? cs).or ((reading (.literal ['T'])).or (reading .blank))

/-- A timestamp that follows a pattern. -/
def readPattern? (pattern text : String) : Option Instant := do
  let items ← items? pattern
  let fields ← readItems items {} text.toList
  fields.zoned?.or (fields.local? 0)

end RowSignals.Calendar
