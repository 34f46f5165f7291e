import RowSignals.Text.Blank

/-!
# Timestamp patterns

A pattern describes the text of a timestamp: `%` and a letter stand for a field, blanks for any
run of blanks, and everything else for itself.

* `NumberField`, `Item`: what a pattern is made of.
* `lettered`, `specifier`: the items that follow a `%`.
* `items?`: the items of a pattern; none when a `%` is followed by something unknown.

Some letters stand for several items, such as `%F` for a date; a reader of items need not know
them.
-/

namespace RowSignals.Calendar

/-- A field that is written as a number. -/
inductive NumberField where
  | year | century | yearOfCentury
  | isoYear | isoYearOfCentury
  | quarter | month | day
  | weekFromSunday | weekFromMonday | isoWeek
  | weekdayFromSunday | weekdayFromMonday
  | ordinal
  | hour | hour12 | minute | second | nanosecond
  | timestamp
  deriving Repr, DecidableEq

/-- One item of a pattern. -/
inductive Item where
  /-- A text that stands for itself. -/
  | literal (text : List Char)
  /-- Any run of blanks, also an empty one. -/
  | blank
  /-- A field written as a number. -/
  | number (field : NumberField)
  /-- The name of a month; the long form may be cut to three letters. -/
  | monthName (long : Bool)
  /-- The name of a weekday; the long form may be cut to three letters. -/
  | weekdayName (long : Bool)
  /-- `am` or `pm`. -/
  | halfDay
  /-- A point and a fraction of a second, or nothing. -/
  | fraction
  /-- A point and a fraction of exactly so many digits, or nothing. -/
  | fractionOf (digits : Nat)
  /-- A fraction of exactly so many digits without a point. -/
  | bareFraction (digits : Nat)
  /-- The name of a zone, which is skipped. -/
  | zoneName
  /-- An offset from universal time; a lenient one may be `Z` or lack its minutes. -/
  | offset (lenient : Bool)
  /-- Date, time of day and offset in the Internet format, with any blanks. -/
  | internet
  deriving Repr, DecidableEq

private def colon : Item := .literal [':']
private def dash : Item := .literal ['-']
private def slash : Item := .literal ['/']
private def oneBlank : Item := .blank

private def clock24 : List Item :=
  [.number .hour, colon, .number .minute, colon, .number .second]

/-- The items of the letter after a `%`. -/
def lettered : Char → Option (List Item)
  | 'A' => some [.weekdayName true]
  | 'B' => some [.monthName true]
  | 'C' => some [.number .century]
  | 'D' => some [.number .month, slash, .number .day, slash, .number .yearOfCentury]
  | 'F' => some [.number .year, dash, .number .month, dash, .number .day]
  | 'G' => some [.number .isoYear]
  | 'H' => some [.number .hour]
  | 'I' => some [.number .hour12]
  | 'M' => some [.number .minute]
  | 'P' => some [.halfDay]
  | 'R' => some [.number .hour, colon, .number .minute]
  | 'S' => some [.number .second]
  | 'T' => some clock24
  | 'U' => some [.number .weekFromSunday]
  | 'V' => some [.number .isoWeek]
  | 'W' => some [.number .weekFromMonday]
  | 'X' => some clock24
  | 'Y' => some [.number .year]
  | 'Z' => some [.zoneName]
  | 'a' => some [.weekdayName false]
  | 'b' => some [.monthName false]
  | 'c' =>
    some ([.weekdayName false, oneBlank, .monthName false, oneBlank, .number .day, oneBlank] ++
      clock24 ++ [oneBlank, .number .year])
  | 'd' => some [.number .day]
  | 'e' => some [.number .day]
  | 'f' => some [.number .nanosecond]
  | 'g' => some [.number .isoYearOfCentury]
  | 'h' => some [.monthName false]
  | 'j' => some [.number .ordinal]
  | 'k' => some [.number .hour]
  | 'l' => some [.number .hour12]
  | 'm' => some [.number .month]
  | 'n' => some [.blank]
  | 'p' => some [.halfDay]
  | 'q' => some [.number .quarter]
  | 'r' =>
    some [.number .hour12, colon, .number .minute, colon, .number .second, oneBlank, .halfDay]
  | 's' => some [.number .timestamp]
  | 't' => some [.blank]
  | 'u' => some [.number .weekdayFromMonday]
  | 'v' => some [.number .day, dash, .monthName false, dash, .number .year]
  | 'w' => some [.number .weekdayFromSunday]
  | 'x' => some [.number .month, slash, .number .day, slash, .number .yearOfCentury]
  | 'y' => some [.number .yearOfCentury]
  | 'z' => some [.offset false]
  | '+' => some [.internet]
  | '%' => some [.literal ['%']]
  | _ => none

/-- The number of digits of a fraction that a pattern can ask for. -/
def fractionDigits : Char → Option Nat
  | '3' => some 3
  | '6' => some 6
  | '9' => some 9
  | _ => none

/-- The items after a `%`, and the rest of the pattern. A padding mark may precede a letter that
stands for a single number. -/
def specifier : List Char → Option (List Item × List Char)
  | '-' :: c :: rest | '0' :: c :: rest | '_' :: c :: rest =>
    match lettered c with
    | some [.number field] => some ([.number field], rest)
    | _ => none
  | '#' :: 'z' :: rest => some ([.offset true], rest)
  | ':' :: 'z' :: rest | ':' :: ':' :: 'z' :: rest | ':' :: ':' :: ':' :: 'z' :: rest =>
    some ([.offset false], rest)
  -- `%.f` is a fraction of any length, `%.3f` one of three digits, `%3f` the same without point
  | '.' :: 'f' :: rest => some ([.fraction], rest)
  | '.' :: d :: 'f' :: rest => (fractionDigits d).map fun n => ([.fractionOf n], rest)
  | c :: rest =>
    match fractionDigits c, rest with
    | some n, 'f' :: rest => some ([.bareFraction n], rest)
    | _, _ => (lettered c).map (·, rest)
  | [] => none

/-- The items of a pattern of at most `fuel` characters. -/
def itemsWithin (fuel : Nat) (cs : List Char) : Option (List Item) :=
  match fuel, cs with
  | _, [] => some []
  | 0, _ => none
  | fuel + 1, '%' :: rest =>
    match specifier rest with
    | some (items, rest) => (itemsWithin fuel rest).map (items ++ ·)
    | none => none
  | fuel + 1, c :: rest =>
    if Text.isBlank c then (itemsWithin fuel (Text.trimStart rest)).map (.blank :: ·)
    else
      let isPlain (c : Char) : Bool := !Text.isBlank c && c != '%'
      (itemsWithin fuel (rest.dropWhile isPlain)).map
        (.literal (c :: rest.takeWhile isPlain) :: ·)

/-- The items of a pattern. -/
def items? (pattern : String) : Option (List Item) :=
  let cs := pattern.toList
  itemsWithin cs.length cs

end RowSignals.Calendar
