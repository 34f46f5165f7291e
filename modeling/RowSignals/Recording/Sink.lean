import RowSignals.Signal

/-!
# Recorded signals

A recording keeps all signals that it receives and checks expectations against them. Tags are
compared without regard to their order. Counts of the same name, tags and host name are added up
before they are compared, as an aggregator does.

* `Recording`: what was received, and which metrics were expected.
* `Recording.receive`: one more signal.
* `Recording.matching`: the metrics that meet an expectation, by their positions.
* `Recording.expectMetric?`, `Recording.allExpected`: expectations on metrics.
* `Recording.hasCheck`, `Recording.hasMetadata`: expectations on checks and metadata.

A metric that meets an expectation is marked, and afterwards a trial can ask whether any metric
was left without one.
-/

namespace RowSignals

/-- A metric that was received. -/
structure RecordedMetric where
  kind : MetricKind
  name : String
  value : Float
  tags : List String
  hostname : Option String
  deriving Repr

/-- A service check that was received. -/
structure RecordedCheck where
  name : String
  status : CheckStatus
  tags : List String
  hostname : Option String
  message : Option String
  deriving Repr

/-- An entry of metadata that was received. -/
structure RecordedMetadata where
  entity : String
  name : String
  value : String
  deriving Repr, DecidableEq

/-- What was received, in order. -/
structure Recording where
  metrics : List RecordedMetric := []
  checks : List RecordedCheck := []
  metadata : List RecordedMetadata := []
  /-- The positions of the metrics that were expected. -/
  expected : List Nat := []
  deriving Repr

/-- What a metric is expected to be. -/
structure MetricExpectation where
  kind : MetricKind
  name : String
  value : Float
  tags : List String
  /-- The host name, if it matters. -/
  hostname : Option (Option String)
  deriving Repr

/-- Whether a metric is of the kind, name, tags and host name that are expected. -/
def MetricExpectation.describes (expectation : MetricExpectation) (metric : RecordedMetric) :
    Bool :=
  metric.name == expectation.name && metric.kind == expectation.kind &&
    metric.tags.isPerm expectation.tags && expectation.hostname.all (metric.hostname == ·)

namespace Recording

/-- Nothing received. -/
def empty : Recording := {}

/-- One more signal. -/
def receive (recording : Recording) : Signal → Recording
  | .metric kind name value tags hostname =>
    { recording with metrics := recording.metrics ++ [⟨kind, name, value, tags, hostname⟩] }
  | .check name status tags hostname message =>
    { recording with checks := recording.checks ++ [⟨name, status, tags, hostname, message⟩] }
  | .metadata entity name value =>
    { recording with metadata := recording.metadata ++ [⟨entity, name, value⟩] }
  -- how long an operation took is no part of the signal, so the gauge is recorded as zero
  | .operationTime name tags hostname =>
    { recording with metrics := recording.metrics ++ [⟨.gauge, name, 0, tags, hostname⟩] }

/-- The metrics of a name. -/
def metricsNamed (recording : Recording) (name : String) : List RecordedMetric :=
  recording.metrics.filter (·.name == name)

/-! ## Expectations -/

/-- Whether two numbers are the same up to one part in a billion, or one billionth for small
ones. -/
def isClose (a b : Float) : Bool :=
  let larger := if a.abs < b.abs then b.abs else a.abs
  let size := if larger < 1 then 1 else larger
  (a - b).abs ≤ 1e-9 * size

/-- Metrics by their host names, with their positions, in the order of the first one of each. -/
def byHostname (metrics : List (RecordedMetric × Nat)) : List (List (RecordedMetric × Nat)) :=
  let hostnames := metrics.foldl
    (fun seen (metric, _) =>
      if seen.contains metric.hostname then seen else seen ++ [metric.hostname]) []
  hostnames.map fun hostname => metrics.filter fun (metric, _) => metric.hostname == hostname

/-- The positions of the metrics that meet an expectation. Counts meet it together, one host
name at a time. -/
def matching (recording : Recording) (expectation : MetricExpectation) : List Nat :=
  let candidates :=
    recording.metrics.zipIdx.filter fun (metric, _) => expectation.describes metric
  match expectation.kind with
  | .count =>
    let total (group : List (RecordedMetric × Nat)) : Float :=
      group.foldl (fun sum (metric, _) => sum + metric.value) 0
    match (byHostname candidates).find? fun g => isClose (total g) expectation.value with
    | some group => group.map (·.2)
    | none => []
  | _ => (candidates.filter fun (metric, _) => isClose metric.value expectation.value).map (·.2)

/-- The recording in which the metrics that meet an expectation are marked; nothing if there are
none. -/
def expectMetric? (recording : Recording) (expectation : MetricExpectation) :
    Option Recording :=
  match recording.matching expectation with
  | [] => none
  | positions => some { recording with expected := recording.expected ++ positions }

/-- Whether every metric was expected. -/
def allExpected (recording : Recording) : Bool :=
  (List.range recording.metrics.length).all recording.expected.contains

/-- Whether a service check was received. -/
def hasCheck (recording : Recording) (name : String) (status : CheckStatus) (tags : List String)
    (message : Option String) : Bool :=
  recording.checks.any fun check =>
    check.name == name && check.status == status && check.tags.isPerm tags &&
      check.message == message

/-- Whether an entry of metadata was received. -/
def hasMetadata (recording : Recording) (entity name value : String) : Bool :=
  recording.metadata.contains ⟨entity, name, value⟩

end Recording

end RowSignals
