import RowSignals.Trace

/-!
# The expression tracer

The command line around `Trace.run`, which says what is printed and with which code the program
ends. Nothing else is done here.
-/

/-- Trace the expression of the first argument with the sources of the others. -/
def main (args : List String) : IO UInt32 := do
  let report := RowSignals.Trace.run args
  IO.print report.stdout
  IO.eprint report.stderr
  return UInt32.ofNat report.code
