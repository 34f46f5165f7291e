import RowSignals.Query.Run

/-!
# Executors

An executor owns raw definitions, the queries compiled from them, and for every query the time
of its last run.

* `Executor.compile`: all definitions are compiled, or none. The last run of a query is kept as
  long as its definition does not change.
* `Executor.execute`: every query has its turn, in the order of the definitions, and runs if it
  is due.
* `LastRuns`: the times of the last runs, under the identities of the queries.

The clock and the runner come from outside. `Moment` is what a query meets when its turn comes;
an execution is given one moment for every position. What it causes is an `Activity`, and the
only thing that it changes is when queries last ran.
-/

namespace RowSignals

open Calendar (Instant)

/-- The times of the last runs of queries, each under the identity of its query. A query that is
run at will has an entry without a time. -/
abbrev LastRuns := List (Identity × Option Instant)

namespace LastRuns

/-- The time of the last run under an identity. -/
def last? (runs : LastRuns) (identity : Identity) : Option Instant :=
  (runs.lookup identity).join

/-- Set the entry of an identity. -/
def put (identity : Identity) (last : Option Instant) : LastRuns → LastRuns
  | [] => [(identity, last)]
  | (known, before) :: runs =>
    if known = identity then (known, last) :: runs
    else (known, before) :: put identity last runs

/-- Make sure that an identity has an entry. -/
def enter (identity : Identity) (runs : LastRuns) : LastRuns :=
  match runs.lookup identity with
  | some _ => runs
  | none => runs.put identity none

/-- Remove the entry of an identity. -/
def remove (identity : Identity) (runs : LastRuns) : LastRuns :=
  runs.filter fun run => run.1 ≠ identity

end LastRuns

/-- Definitions with their queries and the times of their last runs. -/
structure Executor where
  options : Options
  definitions : List Json
  queries : List Query
  lastRuns : LastRuns

namespace Executor

/-- An executor before its definitions are compiled. -/
def new (options : Options) (definitions : List Json) : Executor :=
  ⟨options, definitions, [], []⟩

/-- Other definitions, which count from the next compilation on. -/
def replaceDefinitions (executor : Executor) (definitions : List Json) : Executor :=
  { executor with definitions := definitions }

/-! ## Compilation -/

/-- The queries of definitions, when those of the names in `seen` are already there. No two
queries have the same name. -/
def compileFrom (options : CompileOptions) (seen : List String) :
    List Json → Except DefinitionError (List Query)
  | [] => .ok []
  | raw :: definitions => do
    let query ← Query.ofJson options raw
    if seen.contains query.name then .error (.duplicateQuery query.name)
    else
      let queries ← compileFrom options (query.name :: seen) definitions
      .ok (query :: queries)

/-- Entries for queries. Every query takes its entry out of the old ones; one that has none
there starts without a time. -/
def carryOver : List Query → LastRuns → LastRuns → LastRuns
  | [], _, runs => runs
  | query :: queries, old, runs =>
    carryOver queries (old.remove query.identity)
      (runs.put query.identity (old.last? query.identity))

/-- Compile all definitions. The executor is returned in any case. -/
def compile (executor : Executor) : Except DefinitionError Activity × Executor :=
  match compileFrom executor.options.compileOptions [] executor.definitions with
  | .error error => (.error error, executor)
  | .ok queries =>
    (.ok (.log (.compiled queries.length)),
      { executor with queries := queries, lastRuns := carryOver queries executor.lastRuns [] })

/-! ## Execution -/

/-- Seconds between two instants, in whole milliseconds. -/
def secondsBetween (earlier later : Instant) : Float :=
  TimeFormat.secondsOfMillis (later.millisSince earlier)

/-- Whether a query may run again. -/
def isDue (runs : LastRuns) (query : Query) (now : Instant) : Bool :=
  match query.definition.interval, runs.last? query.identity with
  | some interval, some last => !(secondsBetween last now < interval)
  | _, _ => true

/-- The time of a run is recorded only if there is a least time between two. -/
def recordRun (runs : LastRuns) (query : Query) (now : Instant) : LastRuns :=
  if query.definition.interval.isSome then runs.put query.identity (some now) else runs

/-- What a query meets when its turn comes: the reading of the clock and the runner. -/
structure Moment where
  now : Instant
  runner : Runner

/-- The turn of a query in an execution, and whether the query runs. -/
structure Turn where
  query : Query
  moment : Moment
  runs : Bool

/-- The turns of queries from a position on, and the times of the last runs after them. The
clock is read anew for every query. -/
def turnsFrom (moments : Nat → Moment) (position : Nat) :
    List Query → LastRuns → List Turn × LastRuns
  | [], runs => ([], runs)
  | query :: queries, runs =>
    let moment := moments position
    let runs := runs.enter query.identity
    let due := isDue runs query moment.now
    -- the run is recorded before the runner is asked, so that a failure counts as a run
    let (turns, runs) := turnsFrom moments (position + 1) queries
      (if due then recordRun runs query moment.now else runs)
    (⟨query, moment, due⟩ :: turns, runs)

/-- The gauge for the time that a query took. -/
def operationTime (options : Options) (query : Query) : Activity :=
  match options.operationTimeMetric with
  | none => .none
  | some metric =>
    -- the tags of the options are taken as they are, repeats included
    .submit (.operationTime metric (options.tags ++ ["operation:" ++ query.name])
      options.hostname)

/-- What the turn of a query causes: nothing unless the query runs. -/
def turnActivity (options : Options) (extraTags : List String) (turn : Turn) : Activity :=
  if turn.runs then
    turn.query.run turn.moment.runner options extraTags turn.moment.now ++
      operationTime options turn.query
  else .none

/-- Give every query its turn. -/
def execute (executor : Executor) (moments : Nat → Moment) (extraTags : List String) :
    Executor × Activity :=
  let (turns, runs) := turnsFrom moments 0 executor.queries executor.lastRuns
  ({ executor with lastRuns := runs },
    .join (turns.map (turnActivity executor.options extraTags)))

/-- When the query of a name last ran. -/
def lastRun? (executor : Executor) (name : String) : Option Instant :=
  (executor.queries.find? (·.name == name)).bind fun query =>
    executor.lastRuns.last? query.identity

/-! ## Inspection -/

/-- A last run for inspection. -/
def lastRunOutline (run : Identity × Option Instant) : Text.Outline × Text.Outline :=
  (.record "QueryIdentity" [("name", .text run.1.name), ("digest", .text run.1.digest)] false,
   .record "QueryState"
    [("last_execution_time", .option (fun i => .atom i.universalText) run.2)] false)

/-- The executor for inspection. -/
def outline (executor : Executor) : Text.Outline :=
  .record "QueryExecutor"
    [("queries", .atom (toString executor.queries.length)),
     ("options", executor.options.outline),
     ("state", .map (executor.lastRuns.map lastRunOutline))] true

end Executor

end RowSignals
