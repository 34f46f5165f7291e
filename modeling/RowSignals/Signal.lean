/-!
# Signals

What a query emits: metrics, service checks and metadata. A sink receives them in order.

* `MetricKind`, `CheckStatus`: the kinds of metrics and the states of service checks, with their
  names.
* `Signal`: one submission.

A signal carries its tags and host name as they are sent. Which tags those are is decided where
a row is evaluated (`Query.Run`) and for the time that a query took where it is run
(`Executor`).
-/

namespace RowSignals

/-- How a metric is aggregated. -/
inductive MetricKind where
  | gauge
  | count
  | monotonicCount
  | rate
  | histogram
  | historate
  deriving Repr, DecidableEq

namespace MetricKind

/-- The kinds in the order of their declaration. -/
def all : List MetricKind := [.gauge, .count, .monotonicCount, .rate, .histogram, .historate]

/-- The name of a kind. -/
def name : MetricKind → String
  | .gauge => "gauge"
  | .count => "count"
  | .monotonicCount => "monotonic_count"
  | .rate => "rate"
  | .histogram => "histogram"
  | .historate => "historate"

/-- The kind of a name. -/
def ofName? (name : String) : Option MetricKind :=
  all.find? (·.name == name)

end MetricKind

/-- The state of a service. -/
inductive CheckStatus where
  | ok
  | warning
  | critical
  | unknown
  deriving Repr, DecidableEq

namespace CheckStatus

/-- The name of a state, in lower case. -/
def name : CheckStatus → String
  | .ok => "ok"
  | .warning => "warning"
  | .critical => "critical"
  | .unknown => "unknown"

/-- The state of a name in lower case. -/
def ofExactName? (name : String) : Option CheckStatus :=
  [ok, warning, critical, unknown].find? (·.name == name)

/-- The state of a name; small and capital letters are the same. -/
def ofName? (name : String) : Option CheckStatus :=
  ofExactName? (String.ofList (name.toList.map Char.toLower))

/-- The number of a state. -/
def code : CheckStatus → Nat
  | .ok => 0
  | .warning => 1
  | .critical => 2
  | .unknown => 3

end CheckStatus

/-- One submission to a sink. -/
inductive Signal where
  | metric (kind : MetricKind) (name : String) (value : Float) (tags : List String)
    (hostname : Option String)
  | check (name : String) (status : CheckStatus) (tags : List String)
    (hostname message : Option String)
  | metadata (entity name value : String)
  /-- A gauge of the milliseconds that a query took, which are measured while it runs. -/
  | operationTime (name : String) (tags : List String) (hostname : Option String)
  deriving Repr

end RowSignals
