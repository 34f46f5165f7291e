import RowSignals.Proofs.Executor.Throttling
import RowSignals.Proofs.Query.Signals

/-!
# Isolation

What a runner answers to one query changes nothing for the other queries of an execution: not
what they cause, not which of them are due, and not the last runs that the execution leaves.

* `Executor.share`: what one query causes in an execution; `Consistent.execute_shares`: an
  execution causes the shares of its queries, one after the other.
* `Executor.due`: the queries that are due, and `Consistent.calls_due`: these and no others are
  handed to the runner.
* `AgreeExcept`: two runners that differ at most in one answer.
* `queries_isolated`: an execution under either of two such runners.
-/

namespace RowSignals

open Calendar (Instant)

/-- Two runners that differ at most in their answer to one query. -/
def AgreeExcept (v : Json) (a b : Runner) : Prop :=
  ∀ query, query ≠ v → a query = b query

namespace Executor

/-- The moments of an execution in which one runner answers every query. -/
def momentsOf (clock : Nat → Instant) (runner : Runner) (position : Nat) : Moment :=
  ⟨clock position, runner⟩

/-- What the query at a position causes in an execution: its turn is judged by the last run
that the query had before. -/
def share (executor : Executor) (clock : Nat → Instant) (runner : Runner)
    (extraTags : List String) (position : Nat) (query : Query) : Activity :=
  turnActivity executor.options extraTags
    (turnAt executor.lastRuns (momentsOf clock runner position) query)

/-- The queries that are due in an execution, in their order. -/
def due (executor : Executor) (clock : Nat → Instant) : List Query :=
  (executor.queries.zipIdx.filter fun (query, position) =>
    isDue executor.lastRuns query (clock position)).map Prod.fst

/-! ## The last runs -/

/-- The last runs that some turns leave depend on the clock, and on nothing that a runner
answers. -/
theorem turnsFrom_congr (clock : Nat → Instant) (a b : Runner) (position : Nat)
    (queries : List Query) (runs : LastRuns) :
    (turnsFrom (momentsOf clock a) position queries runs).2
      = (turnsFrom (momentsOf clock b) position queries runs).2 := by
  induction queries generalizing position runs with
  | nil => rfl
  -- the run of the first query is recorded before the runner is asked
  | cons query queries ih => exact ih (position + 1) _

/-- What an execution leaves does not depend on the runner. -/
theorem execute_congr (executor : Executor) (clock : Nat → Instant) (a b : Runner)
    (extraTags : List String) :
    (executor.execute (momentsOf clock a) extraTags).1
      = (executor.execute (momentsOf clock b) extraTags).1 := by
  have hruns : (turnsFrom (momentsOf clock a) 0 executor.queries executor.lastRuns).2
      = (turnsFrom (momentsOf clock b) 0 executor.queries executor.lastRuns).2 :=
    turnsFrom_congr clock a b 0 executor.queries executor.lastRuns
  unfold execute
  dsimp only
  rw [hruns]

/-! ## The share of a query -/

section
variable {executor : Executor} {clock : Nat → Instant} {query : Query} {position : Nat}
  (extraTags : List String)

/-- The share of a query that is due is its run and the time that it took. -/
theorem share_of_due (runner : Runner)
    (h : isDue executor.lastRuns query (clock position) = true) :
    executor.share clock runner extraTags position query
      = query.run runner executor.options extraTags (clock position)
        ++ operationTime executor.options query :=
  if_pos h

theorem share_of_throttled (runner : Runner)
    (h : isDue executor.lastRuns query (clock position) = false) :
    executor.share clock runner extraTags position query = .none :=
  if_neg (Bool.eq_false_iff.mp h)

/-- The share of a query depends only on the answer to this query. -/
theorem share_congr {a b : Runner} (h : a query.definition.query = b query.definition.query) :
    executor.share clock a extraTags position query
      = executor.share clock b extraTags position query := by
  cases hdue : isDue executor.lastRuns query (clock position) with
  | false => rw [share_of_throttled _ _ hdue, share_of_throttled _ _ hdue]
  | true => rw [share_of_due _ _ hdue, share_of_due _ _ hdue, Query.run, Query.run, h]

end

end Executor

namespace Life

open Executor (momentsOf isDue turnAt turnActivity)

section
variable {life : Life}

/-- The turns of an execution, each judged by the last run that its query had before. -/
theorem Consistent.turns_eq (h : life.Consistent) (moments : Nat → Executor.Moment) :
    life.executor.turns moments = life.executor.queries.mapIdx fun position query =>
      turnAt life.executor.lastRuns (moments position) query := by
  have hturns := (h.settled moments).turns_eq
  simpa only [Nat.zero_add] using hturns

/-- An execution causes the shares of its queries, in their order. -/
theorem Consistent.execute_shares (h : life.Consistent) (clock : Nat → Instant)
    (runner : Runner) (extraTags : List String) :
    (life.executor.execute (momentsOf clock runner) extraTags).2
      = .join (life.executor.queries.mapIdx
          (life.executor.share clock runner extraTags)) := by
  show Activity.join ((life.executor.turns (momentsOf clock runner)).map _) = _
  rw [h.turns_eq, List.mapIdx_eq_zipIdx_map, List.map_map, List.mapIdx_eq_zipIdx_map]
  rfl

/-- The runner is handed the queries that are due, in their order, and no others. -/
theorem Consistent.calls_due (h : life.Consistent) (clock : Nat → Instant) (runner : Runner)
    (extraTags : List String) :
    (life.executor.execute (momentsOf clock runner) extraTags).2.calls
      = (life.executor.due clock).map (·.definition.query) := by
  rw [Executor.calls_execute, h.turns_eq, List.mapIdx_eq_zipIdx_map, List.filter_map,
    List.map_map, Executor.due, List.map_map]
  rfl

end

/-- What one execution does under two runners `a` and `b` that differ at most in their answer
to `v`. -/
structure Isolated (life : Life) (v : Json) (a b : Runner) (clock : Nat → Instant)
    (extraTags : List String) : Prop where
  /-- The queries stand in the order of the definitions that they come from. -/
  ordered : Pipelines life.executor.options.compileOptions life.compiled life.executor.queries
  /-- Under any runner, the execution causes what its queries cause, one after the other. -/
  joined : ∀ runner, (life.executor.execute (momentsOf clock runner) extraTags).2
    = .join (life.executor.queries.mapIdx (life.executor.share clock runner extraTags))
  /-- Every other query causes the same under both runners. -/
  others : ∀ position query, query.definition.query ≠ v →
    life.executor.share clock a extraTags position query
      = life.executor.share clock b extraTags position query
  /-- Under any runner, the queries that are due are handed to it, in their order. -/
  calls : ∀ runner, (life.executor.execute (momentsOf clock runner) extraTags).2.calls
    = (life.executor.due clock).map (·.definition.query)
  /-- Both runners leave the same executor. -/
  state : (life.executor.execute (momentsOf clock a) extraTags).1
    = (life.executor.execute (momentsOf clock b) extraTags).1
  /-- A query that is due submits the signals of its rows, none of which is an operation time,
  and then one operation time, whatever the runner answers. -/
  timed : ∀ metric ∈ life.executor.options.operationTimeMetric, ∀ runner position query,
    isDue life.executor.lastRuns query (clock position) = true →
    let rows := (query.run runner life.executor.options extraTags (clock position)).signals
    (∀ signal ∈ rows, signal.OfRow) ∧
      (life.executor.share clock runner extraTags position query).signals
        = rows ++ [.operationTime metric
            (life.executor.options.tags ++ ["operation:" ++ query.name])
            life.executor.options.hostname]
  /-- A throttled query causes nothing, and so submits no operation time. -/
  throttled : ∀ runner position query,
    isDue life.executor.lastRuns query (clock position) = false →
    life.executor.share clock runner extraTags position query = .none

/-- At any point of any life, the queries of one execution are isolated from each other. -/
theorem queries_isolated {options : Options} {definitions : List Json} {steps : List Step}
    {v : Json} {a b : Runner} (h : AgreeExcept v a b) (clock : Nat → Instant)
    (extraTags : List String) :
    Isolated ((new options definitions).after steps) v a b clock extraTags := by
  have hlife : ((new options definitions).after steps).Consistent :=
    consistent options definitions steps
  refine ⟨hlife.pipelines, ?_, ?_, ?_, ?_, ?_, ?_⟩
  · exact fun runner => hlife.execute_shares clock runner extraTags
  · exact fun position query hquery => Executor.share_congr extraTags (h _ hquery)
  · exact fun runner => hlife.calls_due clock runner extraTags
  · exact Executor.execute_congr _ clock a b extraTags
  · intro metric hmetric runner position query hdue
    refine ⟨query.run_submits runner _ extraTags (clock position), ?_⟩
    rw [Executor.share_of_due extraTags runner hdue, Executor.operationTime, hmetric]
    rfl
  · exact fun runner position query hdue => Executor.share_of_throttled extraTags runner hdue

/-- A definition with one column, which is submitted as metadata. -/
def metadataDefinition (name : String) : Json :=
  .object [("columns", .array [.object [("name", .string "state"), ("type", .string "metadata")]]),
    ("name", .string name), ("query", .string name)]

/-- The first of two queries fails at once under one runner, and after a row under another. The
second query submits the same under both, and each query its operation time. -/
theorem queries_isolated_failing_runner :
    let options : Options := { Options.default with operationTimeMetric := some "took" }
    let runner (answer : Answer) : Runner := fun query =>
      match query with
      | .string "a" => answer
      | _ => .rows [[.str "up"]] none
    let broken := runner (.refused "down")
    let lost := runner (.rows [[.str "late"]] (some "lost"))
    let clock : Nat → Instant := fun _ => ⟨0, 0⟩
    let life := (new options [metadataDefinition "a", metadataDefinition "b"]).after [.compile]
    let time (name : String) : Signal := .operationTime "took" ["operation:" ++ name] none
    AgreeExcept (.string "a") broken lost ∧ Isolated life (.string "a") broken lost clock [] ∧
    (life.executor.execute (momentsOf clock broken) []).2.signals
      = [time "a", .metadata "" "state" "up", time "b"] ∧
    (life.executor.execute (momentsOf clock lost) []).2.signals
      = [.metadata "" "state" "late", time "a", .metadata "" "state" "up", time "b"] := by
  intro options runner broken lost clock life time
  have hagree : AgreeExcept (.string "a") broken lost := by
    intro query hquery
    simp only [broken, lost, runner]
  exact ⟨hagree, queries_isolated hagree clock [], rfl, rfl⟩

end Life

end RowSignals
