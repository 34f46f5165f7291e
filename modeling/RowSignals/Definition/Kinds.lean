import RowSignals.Signal

/-!
# Kinds of columns and extras

The type of a column or extra says what happens to its values. Most kinds submit a value and may
stand wherever a value does; the others belong to columns or to extras only.

* `SubmitKind`: kinds that submit a value. They may be columns, extras, and items of a
  dispatching column.
* `ColumnKind`: kinds of columns.
* `ExtraKind`: kinds of extras.

Each of them lists its kinds in `all` and names them by `name`. The kind of a name is looked up
in that list, so a kind cannot have a name without being found by it.
-/

namespace RowSignals

/-- A kind that submits a value. -/
inductive SubmitKind where
  | metric (kind : MetricKind)
  /-- A gauge of the total with a count beside it. -/
  | monotonicGauge
  /-- A rate of time spent, in percent. -/
  | temporalPercent
  | serviceCheck
  /-- A gauge of the seconds since a point in time. -/
  | timeElapsed
  | metadata
  deriving Repr, DecidableEq

namespace SubmitKind

/-- The kinds in the order in which they are listed. -/
def all : List SubmitKind :=
  MetricKind.all.map .metric ++
    [.monotonicGauge, .temporalPercent, .serviceCheck, .timeElapsed, .metadata]

/-- The name of a kind. -/
def name : SubmitKind → String
  | .metric kind => kind.name
  | .monotonicGauge => "monotonic_gauge"
  | .temporalPercent => "temporal_percent"
  | .serviceCheck => "service_check"
  | .timeElapsed => "time_elapsed"
  | .metadata => "metadata"

/-- The kind of a name. -/
def ofName? (name : String) : Option SubmitKind :=
  all.find? (·.name == name)

end SubmitKind

/-- A kind of columns. -/
inductive ColumnKind where
  /-- Only keeps the value for others. -/
  | source
  | tag
  | tagList
  /-- Submits the source that the value selects. -/
  | dispatch
  | submit (kind : SubmitKind)
  deriving Repr, DecidableEq

namespace ColumnKind

/-- The kinds in the order in which they are listed. -/
def all : List ColumnKind :=
  [.source, .tag, .tagList, .dispatch] ++ SubmitKind.all.map .submit

/-- The name of a kind. -/
def name : ColumnKind → String
  | .source => "source"
  | .tag => "tag"
  | .tagList => "tag_list"
  | .dispatch => "match"
  | .submit kind => kind.name

/-- The kind of a name. -/
def ofName? (name : String) : Option ColumnKind :=
  all.find? (·.name == name)

end ColumnKind

/-- A kind of extras. -/
inductive ExtraKind where
  | expression
  | percent
  | submit (kind : SubmitKind)
  deriving Repr, DecidableEq

namespace ExtraKind

/-- The kinds in the order in which they are listed. -/
def all : List ExtraKind :=
  [.expression, .percent] ++ SubmitKind.all.map .submit

/-- The name of a kind. -/
def name : ExtraKind → String
  | .expression => "expression"
  | .percent => "percent"
  | .submit kind => kind.name

/-- The kind of a name. -/
def ofName? (name : String) : Option ExtraKind :=
  all.find? (·.name == name)

end ExtraKind

end RowSignals
