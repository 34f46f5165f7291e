import RowSignals.Expr.Arithmetic

/-!
# Errors of one row

What can go wrong while a row is turned into signals. Such an error is logged; it does not stop
the row. A column or an extra that fails has submitted nothing, and the other columns and extras
go on without it.

* `RowError`: why a value could not be used.
* `RowError.message`: the error in words.
-/

namespace RowSignals

/-- Why a value of a row could not be used. -/
inductive RowError where
  | eval (error : Expr.EvalError)
  | notNumeric (error : NotNumeric)
  | missingSource (name : String)
  /-- A value that is no point in time. -/
  | notATimestamp (value : String)
  /-- A text that does not follow the pattern of its timestamps. -/
  | unreadTimestamp (value format : String)
  /-- A text that is no version of its scheme. -/
  | versionMismatch (raw scheme : String)
  deriving Repr

namespace RowError

/-- What a message says about a value that could not be used. -/
def message : RowError → String
  | .eval e => e.message
  | .notNumeric e => e.message
  | .missingSource name => "source `" ++ name ++ "` is not available"
  | .notATimestamp value => value ++ " is not a timestamp"
  | .unreadTimestamp value format =>
    "could not parse " ++ value ++ " with format `" ++ format ++ "`"
  | .versionMismatch raw scheme =>
    "version " ++ raw ++ " does not match the " ++ scheme ++ " scheme"

end RowError

end RowSignals
