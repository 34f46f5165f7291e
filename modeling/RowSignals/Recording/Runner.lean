import RowSignals.Query.Run

/-!
# Canned answers

A runner for trials, whose answers are given beforehand: by the text of the query, or the same
rows for every query that has no answer of its own.

* `CannedAnswers`, `CannedAnswers.answer`.
* `CannedAnswers.failing`: a runner that fails, at once or after some rows.
-/

namespace RowSignals

/-- Answers to some queries, and the rows that answer all others. -/
structure CannedAnswers where
  rows : List Row := []
  byQuery : List (String × Answer) := []
  deriving Repr

namespace CannedAnswers

/-- The answer to a query. Only texts have answers of their own. -/
def answer (canned : CannedAnswers) (query : Json) : Answer :=
  match query.string?.bind fun text => canned.byQuery.lookup text with
  | some answer => answer
  | none => .rows canned.rows none

/-- A runner that always fails, after rows if there are any. -/
def failing (problem : String) (rows : Option (List Row)) : Runner :=
  fun _ =>
    match rows with
    | none => .refused problem
    | some rows => .rows rows (some problem)

end CannedAnswers

end RowSignals
