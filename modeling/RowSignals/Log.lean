import RowSignals.RowError

/-!
# Logs

What happens while queries run and is no signal is logged. An entry says what happened; its
level and message follow. So a run can be reasoned about by its entries, and their texts stand
in one place.

* `LogLevel`: how much an entry matters.
* `LogEntry`: something that happened.
* `LogEntry.level`, `LogEntry.message`: what is written down.
-/

namespace RowSignals

/-- How much an entry matters. -/
inductive LogLevel where
  | error
  | warn
  | info
  | debug
  | trace
  deriving Repr, DecidableEq

namespace LogLevel

/-- The name of a level. -/
def name : LogLevel → String
  | .error => "ERROR"
  | .warn => "WARN"
  | .info => "INFO"
  | .debug => "DEBUG"
  | .trace => "TRACE"

/-- The level of a name. -/
def ofName? (name : String) : Option LogLevel :=
  [error, warn, info, debug, trace].find? (·.name == name)

end LogLevel

/-- Something that happened. -/
inductive LogEntry where
  /-- The queries were compiled. -/
  | compiled (count : Nat)
  /-- The runner failed. -/
  | queryFailed (query problem : String)
  /-- There was no row, or an empty one. -/
  | emptyResult (query : String)
  /-- A row has the wrong length. -/
  | wrongLength (query : String) (expected actual : Nat)
  | hostnameFailed (query : String) (error : RowError)
  /-- A column or extra failed. -/
  | transformFailed (name : String) (error : RowError)
  deriving Repr

namespace LogEntry

/-- How much an entry matters. -/
def level : LogEntry → LogLevel
  | .compiled _ => .debug
  | .emptyResult _ => .debug
  | _ => .error

/-- An entry in words. -/
def message : LogEntry → String
  | .compiled count => "Compiled " ++ toString count ++ " queries"
  | .queryFailed query problem => "Error querying " ++ query ++ ": " ++ problem
  | .emptyResult query => "Query " ++ query ++ " returned an empty result"
  | .wrongLength query expected actual =>
    "Query " ++ query ++ " expected " ++ toString expected ++ " column" ++
      (if expected = 1 then "" else "s") ++ ", got " ++ toString actual
  | .hostnameFailed query error =>
    "Error transforming hostname of " ++ query ++ ": " ++ error.message
  | .transformFailed name error => "Error transforming " ++ name ++ ": " ++ error.message

end LogEntry

end RowSignals
