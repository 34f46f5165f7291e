import RowSignals.Log
import RowSignals.Number.Reading
import RowSignals.Text.Pieces

/-!
# Recorded logs

A log is written line by line; a message may take several lines. The entries are read back from
the lines, as a trial sees nothing of a log but its text.

* `LogText.write`: a message at a level; `LogText.lines`: the lines.
* `LogText.readLevel?`: a level by number or name, as the reader of levels takes both.
* `LogText.records`: the entries that the lines show.
* `LogText.count`, `LogText.countStarting`: how often a message, or one with a known beginning,
  was logged.

A line of a message that begins like an entry is counted as one.
-/

namespace RowSignals

/-- The text of a log. -/
structure LogText where
  text : String := ""
  deriving Repr, DecidableEq

namespace LogText

/-- A level in five columns. -/
def levelColumn (level : LogLevel) : String :=
  String.ofList (List.replicate (5 - level.name.length) ' ') ++ level.name

/-- A log with one more message. -/
def write (log : LogText) (level : LogLevel) (message : String) : LogText :=
  ⟨log.text ++ levelColumn level ++ " " ++ message ++ "\n"⟩

/-- The lines of a log. -/
def lines (log : LogText) : List String :=
  (Text.lines log.text.toList).map String.ofList

/-- A level by its number. -/
def numberedLevel? (cs : List Char) : Option LogLevel :=
  let digits := match cs with
    | '+' :: digits => digits
    | digits => digits
  (Number.readNat? digits).bind fun n =>
    if n = 0 then none else [LogLevel.error, .warn, .info, .debug, .trace][n - 1]?

/-- A level by its number or by its name in any case. -/
def readLevel? (cs : List Char) : Option LogLevel :=
  numberedLevel? cs <|> LogLevel.ofName? (String.ofList (cs.map Char.toUpper))

/-- The level and message that a line shows. -/
def record? (line : String) : Option (LogLevel × String) := do
  let (level, message) ← Text.splitFirst? (· == ' ') (Text.trimStart line.toList)
  return (← readLevel? level, String.ofList message)

/-- The levels and messages that the lines show. -/
def records (log : LogText) : List (LogLevel × String) :=
  log.lines.filterMap record?

/-- How often a message was logged at a level. -/
def count (log : LogText) (level : LogLevel) (message : String) : Nat :=
  (log.records.filter fun (l, m) => l == level && m == message).length

/-- How often a message with a known beginning was logged at a level. -/
def countStarting (log : LogText) (level : LogLevel) (start : String) : Nat :=
  (log.records.filter fun (l, m) =>
    l == level && (Text.stripStart? start.toList m.toList).isSome).length

end LogText

end RowSignals
