import RowSignals.Calendar.Reader
import RowSignals.RowError

/-!
# Time formats

The format of a column says how its values are read as points in time: as they are, as seconds
since 1970, or by a pattern.

* `TimeFormat`: the formats; `TimeFormat.ofParam`: the one that a parameter names.
* `TimeFormat.elapsed`: the seconds from a value to now. Timestamps are taken apart in whole
  milliseconds, cut towards zero, before the difference becomes a float.

A pattern is applied to the plain text of any value. So a number can be read by a pattern, too,
but a timestamp only by one that follows how timestamps are displayed.
-/

namespace RowSignals

open Calendar (Instant)

/-- How a value is read as a point in time. -/
inductive TimeFormat where
  /-- A timestamp, or its text in the Internet format or without offset. -/
  | native
  /-- The seconds since 1970. -/
  | unixTime
  /-- A text that follows a pattern. -/
  | pattern (text : String)
  deriving Repr, DecidableEq

namespace TimeFormat

/-- The format that a parameter names. -/
def ofParam : Option String → TimeFormat
  | none => .native
  | some "native" => .native
  | some "unix_time" => .unixTime
  | some text => .pattern text

/-- Milliseconds as seconds. -/
def secondsOfMillis (ms : Int) : Float :=
  Number.ofInt ms / 1000.0

/-- The instant of a timestamp or of its text. -/
def nativeInstant? : Value → Option Instant
  | .str text => Calendar.readIso? text
  | value => value.utc?

/-- Seconds from a value to now, in whole milliseconds for timestamps. -/
def elapsed (format : TimeFormat) (value : Value) (now : Instant) : Except RowError Float :=
  match format with
  | .unixTime =>
    match value.toFloat? with
    | .ok epoch => .ok (secondsOfMillis now.millis - epoch)
    | .error e => .error (.notNumeric e)
  | .native =>
    match nativeInstant? value with
    | some instant => .ok (secondsOfMillis (now.millisSince instant))
    | none => .error (.notATimestamp value.repr)
  | .pattern text =>
    match Calendar.readPattern? text value.display with
    | some instant => .ok (secondsOfMillis (now.millisSince instant))
    | none => .error (.unreadTimestamp value.repr text)

end TimeFormat

end RowSignals
