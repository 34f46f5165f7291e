import Mathlib.Data.List.Chain
import RowSignals.Proofs.Executor.Recompilation

/-!
# Throttling

The runner is called for a definition with an interval only when the interval has passed since
its last run, through any number of compilations, failures and steps of the clock.

* `Executor.calls_execute`: the runner is called for the turns that run, once for each.
* `Life.calls`: the readings of the clock at which the runner is called for one query.
* `Consistent.interval_step`, `Consistent.interval_run`: what one step and any steps do to the
  last run of a definition that stays.
* `throttling_respected`: the laws of throttling, from the compilation that brings a definition
  in.
-/

namespace RowSignals

open Calendar (Instant)

/-! ## The calls of an activity -/

theorem Activity.calls_append (a b : Activity) : (a ++ b).calls = a.calls ++ b.calls :=
  rfl

theorem Activity.calls_join (activities : List Activity) :
    (join activities).calls = activities.flatMap Activity.calls := by
  induction activities with
  | nil => rfl
  | cons activity activities ih =>
    rw [List.flatMap_cons, ← ih]
    rfl

/-- Activities that are nothing can be left out. -/
theorem Activity.join_map_filter {α : Type} {f : α → Activity} {p : α → Bool} {items : List α}
    (h : ∀ item ∈ items, p item = false → f item = .none) :
    join ((items.filter p).map f) = join (items.map f) := by
  induction items with
  | nil => rfl
  | cons item items ih =>
    have ih := ih fun other hother => h other (List.mem_cons_of_mem _ hother)
    cases hp : p item with
    | true =>
      rw [List.filter_cons_of_pos hp]
      exact congrArg (append (f item)) ih
    | false =>
      rw [List.filter_cons_of_neg (by rw [hp]; exact Bool.false_ne_true), ih]
      show _ = append (f item) (join (items.map f))
      rw [h item List.mem_cons_self hp]
      rfl

theorem Activity.calls_join_eq_nil {activities : List Activity}
    (h : ∀ activity ∈ activities, activity.calls = []) : (join activities).calls = [] := by
  rw [calls_join, List.flatMap_eq_nil_iff]
  exact h

namespace Query

theorem calls_extrasActivity (ctx : RowContext) (extras : List Extra) :
    (extrasActivity ctx extras).calls = [] := by
  induction extras generalizing ctx with
  | nil => rfl
  | cons extra extras ih =>
    have hextra : (extraActivity ctx extra).2.calls = [] := by
      unfold extraActivity
      split <;> rfl
    show (extraActivity ctx extra).2.calls ++ (extrasActivity _ extras).calls = []
    rw [hextra, ih, List.append_nil]

theorem calls_rowActivity (query : Query) (options : Options) (base : List String)
    (now : Instant) (row : Row) : (query.rowActivity options base now row).calls = [] := by
  have hhostname : (query.hostnameOfRow options (query.sourcesOf row)).2.calls = [] := by
    unfold hostnameOfRow
    split
    · rfl
    · split <;> rfl
  have hcolumns (ctx : RowContext) :
      (Activity.join (query.columns.map (columnActivity ctx row))).calls = [] := by
    refine Activity.calls_join_eq_nil fun activity hactivity => ?_
    obtain ⟨column, -, rfl⟩ := List.mem_map.mp hactivity
    unfold columnActivity
    split <;> rfl
  unfold rowActivity
  dsimp only
  rw [Activity.calls_append, Activity.calls_append, hhostname, hcolumns, calls_extrasActivity]
  rfl

theorem calls_answerActivity (query : Query) (options : Options) (extraTags : List String)
    (now : Instant) (answer : Answer) :
    (query.answerActivity options extraTags now answer).calls = [] := by
  have hrows (rows : List Row) : (Activity.join (rows.map (query.itemActivity options
      (query.baseTags options extraTags) now))).calls = [] := by
    refine Activity.calls_join_eq_nil fun activity hactivity => ?_
    obtain ⟨row, -, rfl⟩ := List.mem_map.mp hactivity
    unfold itemActivity
    split
    · rfl
    · split
      · rfl
      · exact query.calls_rowActivity options _ now row
  unfold answerActivity
  split
  · rfl
  · rfl
  · rename_i rows failure _
    rw [Activity.calls_append, hrows]
    cases failure <;> rfl

/-- A query that runs is handed to the runner once. -/
theorem calls_run (query : Query) (runner : Runner) (options : Options)
    (extraTags : List String) (now : Instant) :
    (query.run runner options extraTags now).calls = [query.definition.query] := by
  rw [run, Activity.calls_append, calls_answerActivity]
  rfl

end Query

namespace Executor

theorem calls_turnActivity (options : Options) (extraTags : List String) (turn : Turn) :
    (turnActivity options extraTags turn).calls
      = if turn.runs then [turn.query.definition.query] else [] := by
  have htime : (operationTime options turn.query).calls = [] := by
    unfold operationTime
    split <;> rfl
  unfold turnActivity
  split
  · rw [Activity.calls_append, Query.calls_run, htime, List.append_nil]
  · rfl

/-- The runner is called for the turns that run, in their order. -/
theorem calls_execute (executor : Executor) (moments : Nat → Moment) (extraTags : List String) :
    (executor.execute moments extraTags).2.calls
      = ((executor.turns moments).filter (·.runs)).map (·.query.definition.query) := by
  show (Activity.join ((executor.turns moments).map _)).calls = _
  rw [Activity.calls_join]
  induction executor.turns moments with
  | nil => rfl
  | cons turn turns ih =>
    rw [List.map_cons, List.flatMap_cons, ih, calls_turnActivity]
    by_cases hruns : turn.runs = true
    · simp [hruns]
    · simp [hruns]

end Executor

/-! ## The calls of one definition -/

namespace Life

open Executor (Moment Turn turnAt turnActivity secondsBetween isDue)

/-- The readings of the clock at which a step hands the query of a name to the runner. -/
def callsAt (life : Life) (name : String) : Step → List Instant
  | .execute moments _ =>
    ((life.executor.turns moments).filter fun turn => turn.runs && turn.query.name == name).map
      fun turn => turn.moment.now
  | _ => []

/-- The readings of the clock at which some steps hand the query of a name to the runner. -/
def calls (life : Life) (name : String) : List Step → List Instant
  | [] => []
  | step :: steps => life.callsAt name step ++ (life.step step).1.calls name steps

/-- A definition is among the compiled ones before some steps and after each of them. -/
def Stays (life : Life) (raw : Json) : List Step → Prop
  | [] => raw ∈ life.compiled
  | step :: steps => raw ∈ life.compiled ∧ (life.step step).1.Stays raw steps

theorem Stays.first {life : Life} {raw : Json} {steps : List Step} (h : life.Stays raw steps) :
    raw ∈ life.compiled := by
  cases steps with
  | nil => exact h
  | cons step steps => exact h.1

theorem Stays.last {life : Life} {raw : Json} {steps : List Step} (h : life.Stays raw steps) :
    raw ∈ (life.after steps).compiled := by
  induction steps generalizing life with
  | nil => exact h
  | cons step steps ih => exact ih h.2

/-- What has a key that no other item has is all that is found under the key. -/
theorem filter_key {α : Type} {key : α → String} {items : List α}
    (hkeys : (items.map key).Nodup) {item : α} (hitem : item ∈ items) :
    items.filter (fun other => key other == key item) = [item] := by
  induction items with
  | nil => cases hitem
  | cons first items ih =>
    obtain ⟨hunique, hkeys⟩ := List.nodup_cons.mp hkeys
    rcases List.mem_cons.mp hitem with rfl | hitem
    · have hnone : items.filter (fun other => key other == key item) = [] := by
        rw [List.filter_eq_nil_iff]
        intro other hother heq
        exact hunique (beq_iff_eq.mp heq ▸ List.mem_map_of_mem hother)
      rw [List.filter_cons, if_pos (beq_self_eq_true _), hnone]
    · have hne : ¬ (key first == key item) = true := by
        rw [beq_iff_eq]
        intro heq
        exact hunique (heq ▸ List.mem_map_of_mem hitem)
      rw [List.filter_cons, if_neg hne, ih hkeys hitem]

section
variable {life : Life} {raw : Json} {query : Query}

/-- The turns of an execution are those of all queries, in their order. -/
theorem Consistent.map_turns (h : life.Consistent) (moments : Nat → Moment) :
    (life.executor.turns moments).map Turn.query = life.executor.queries := by
  rw [(h.settled moments).turns_eq]
  refine List.ext_getElem (by simp) fun n _ _ => ?_
  simp [turnAt]

/-- The query of a compiled definition has a position among the queries, and one turn in every
execution. The turn reads the clock at this position, is judged by the last run of the query, and
leaves what it says as the time of the last run. -/
theorem Consistent.exists_turn (h : life.Consistent) (hraw : raw ∈ life.compiled)
    (hok : Query.ofJson life.executor.options.compileOptions raw = .ok query) : ∃ n,
    life.executor.queries[n]? = some query ∧ ∀ moments : Nat → Moment,
      (life.executor.turns moments).filter (fun turn => turn.query.name == query.name)
        = [turnAt life.executor.lastRuns (moments n) query] ∧
      ∀ extraTags,
        (life.step (.execute moments extraTags)).1.executor.lastRuns.last? query.identity
          = (turnAt life.executor.lastRuns (moments n) query).last? life.executor.lastRuns := by
  have hquery : query ∈ life.executor.queries := h.pipelines.mem_of_raw hraw hok
  obtain ⟨n, hn, hget⟩ := List.getElem_of_mem hquery
  refine ⟨n, List.getElem?_eq_some_iff.mpr ⟨hn, hget⟩, fun moments => ?_⟩
  have hsettled := h.settled moments
  have hturn : turnAt life.executor.lastRuns (moments n) query
      ∈ life.executor.turns moments := by
    rw [hsettled.turns_eq, List.mem_mapIdx]
    exact ⟨n, hn, by rw [hget, Nat.zero_add]⟩
  have hnames : ((life.executor.turns moments).map fun turn => turn.query.name).Nodup := by
    have hmap := congrArg (List.map Query.name) (h.map_turns moments)
    rw [List.map_map] at hmap
    exact hmap ▸ h.names
  exact ⟨filter_key hnames hturn, fun _ => hsettled.own _ hturn⟩

/-- A step calls the runner for a compiled definition at most once. -/
theorem callsAt_execute {moments : Nat → Moment} {turn : Turn}
    (h : (life.executor.turns moments).filter (fun turn => turn.query.name == query.name)
      = [turn]) (extraTags : List String) :
    life.callsAt query.name (.execute moments extraTags)
      = if turn.runs then [turn.moment.now] else [] := by
  rw [callsAt, ← List.filter_filter, h]
  by_cases hruns : turn.runs = true
  · simp [hruns]
  · simp [hruns]

/-- Apart from executions, no step changes the last run of a definition that stays. -/
theorem last?_step_of_quiet {step : Step}
    (hstep : ∀ moments extraTags, step ≠ .execute moments extraTags)
    (hraw : raw ∈ (life.step step).1.compiled)
    (hok : Query.ofJson life.executor.options.compileOptions raw = .ok query) :
    (life.step step).1.executor.lastRuns.last? query.identity
      = life.executor.lastRuns.last? query.identity := by
  cases step with
  | compile =>
    rcases life.executor.compile_cases with ⟨error, hcompile⟩ | ⟨queries, hcompile, hq, -⟩
    · simp only [Life.step, hcompile]
    · simp only [Life.step, hcompile] at hraw ⊢
      have hquery := hq.mem_of_raw hraw hok
      rw [Executor.last?_withQueries, if_pos (List.mem_map_of_mem hquery)]
  | replace definitions => rfl
  | execute moments extraTags => exact absurd rfl (hstep moments extraTags)

/-- With an interval, a step either leaves the last run alone, or calls the runner when the
interval has passed and records the reading of the clock. -/
theorem Consistent.interval_step (h : life.Consistent) {step : Step} {interval : Float}
    (hraw : raw ∈ life.compiled) (hlater : raw ∈ (life.step step).1.compiled)
    (hok : Query.ofJson life.executor.options.compileOptions raw = .ok query)
    (hinterval : query.definition.interval = some interval) :
    (life.callsAt query.name step = [] ∧
      (life.step step).1.executor.lastRuns.last? query.identity
        = life.executor.lastRuns.last? query.identity) ∨
    ∃ now, life.callsAt query.name step = [now] ∧
      (life.step step).1.executor.lastRuns.last? query.identity = some now ∧
      ∀ last ∈ life.executor.lastRuns.last? query.identity,
        ¬ secondsBetween last now < interval := by
  cases step with
  | compile => exact .inl ⟨rfl, last?_step_of_quiet nofun hlater hok⟩
  | replace definitions => exact .inl ⟨rfl, rfl⟩
  | execute moments extraTags =>
    -- The query has one turn in the run, at its place among the queries.
    obtain ⟨n, -, hturns⟩ := h.exists_turn hraw hok
    obtain ⟨hturn, hlast⟩ := hturns moments
    have hcalls := callsAt_execute hturn extraTags
    have hlast := hlast extraTags
    rw [hcalls, hlast]
    by_cases hruns : (turnAt life.executor.lastRuns (moments n) query).runs = true
    · refine .inr ⟨(moments n).now, if_pos hruns, ?_, ?_⟩
      · rw [Executor.Turn.last?, if_pos ⟨hruns, Option.isSome_of_eq_some hinterval⟩]
        rfl
      · intro last hbefore
        have hdue : isDue life.executor.lastRuns query (moments n).now = true := hruns
        rw [isDue, hinterval, hbefore] at hdue
        simpa using hdue
    · refine .inl ⟨if_neg hruns, ?_⟩
      rw [Executor.Turn.last?, if_neg fun hboth => hruns hboth.1]
      rfl

/-- With an interval, the calls of a definition that stays keep their distance, from its last
run on, and the latest of them is recorded. -/
theorem Consistent.interval_run (h : life.Consistent) {steps : List Step} {interval : Float}
    (hstays : life.Stays raw steps)
    (hok : Query.ofJson life.executor.options.compileOptions raw = .ok query)
    (hinterval : query.definition.interval = some interval) :
    (life.after steps).executor.lastRuns.last? query.identity
        = (life.calls query.name steps).getLast?.or
          (life.executor.lastRuns.last? query.identity) ∧
      List.IsChain (fun earlier later => ¬ secondsBetween earlier later < interval)
        ((life.executor.lastRuns.last? query.identity).toList ++ life.calls query.name steps) := by
  induction steps generalizing life with
  | nil =>
    refine ⟨rfl, ?_⟩
    cases life.executor.lastRuns.last? query.identity with
    | none => exact .nil
    | some last => exact .singleton last
  | cons step steps ih =>
    obtain ⟨hraw, hstays⟩ := hstays
    have hok' : Query.ofJson (life.step step).1.executor.options.compileOptions raw
        = .ok query := by rw [options_step, hok]
    -- the induction is on the steps that follow, from the last run that this step leaves
    obtain ⟨hlast, hchain⟩ := ih (h.step step) hstays hok'
    rw [Life.after, Life.calls, hlast]
    rcases h.interval_step hraw hstays.first hok hinterval with
      ⟨hcalls, hsame⟩ | ⟨now, hcalls, hnow, hpassed⟩
    · rw [hsame] at hchain ⊢
      rw [hcalls, List.nil_append]
      exact ⟨rfl, hchain⟩
    · rw [hnow] at hchain ⊢
      rw [hcalls]
      refine ⟨?_, ?_⟩
      · rw [List.singleton_append, List.getLast?_cons]
        cases ((life.step step).1.calls query.name steps).getLast? with
        | none => rfl
        | some later => rfl
      · -- the chain of the later calls starts with the recorded reading
        cases hbefore : life.executor.lastRuns.last? query.identity with
        | none => exact hchain
        | some last => exact .cons_cons (hpassed last hbefore) hchain

/-- Without an interval, every execution calls the runner for a compiled definition, and no
step changes its last run. -/
theorem Consistent.atWill_step (h : life.Consistent) {step : Step}
    (hraw : raw ∈ life.compiled) (hlater : raw ∈ (life.step step).1.compiled)
    (hok : Query.ofJson life.executor.options.compileOptions raw = .ok query)
    (hinterval : query.definition.interval = none) :
    (life.step step).1.executor.lastRuns.last? query.identity
      = life.executor.lastRuns.last? query.identity := by
  cases step with
  | compile => exact last?_step_of_quiet nofun hlater hok
  | replace definitions => rfl
  | execute moments extraTags =>
    obtain ⟨n, -, hturns⟩ := h.exists_turn hraw hok
    obtain ⟨-, hlast⟩ := hturns moments
    have hnone : ¬ query.definition.interval.isSome = true := by
      rw [hinterval]
      exact Bool.false_ne_true
    rw [hlast extraTags, Executor.Turn.last?, if_neg fun hboth => hnone hboth.2]
    rfl

/-- Without an interval nothing but the query's own runs changes its last run, in any number of
steps. -/
theorem Consistent.atWill_run (h : life.Consistent) {steps : List Step}
    (hstays : life.Stays raw steps)
    (hok : Query.ofJson life.executor.options.compileOptions raw = .ok query)
    (hinterval : query.definition.interval = none) :
    (life.after steps).executor.lastRuns.last? query.identity
      = life.executor.lastRuns.last? query.identity := by
  induction steps generalizing life with
  | nil => rfl
  | cons step steps ih =>
    obtain ⟨hraw, hstays⟩ := hstays
    have hok' : Query.ofJson (life.step step).1.executor.options.compileOptions raw
        = .ok query := by rw [options_step, hok]
    rw [Life.after, ih (h.step step) hstays hok',
      h.atWill_step hraw hstays.first hok hinterval]

/-- A query that a compilation brought in has no last run right after it. -/
theorem Consistent.last?_brought_in (h : life.Consistent) (hlacks : life.Lacks query) :
    (life.step .compile).1.executor.lastRuns.last? query.identity = none := by
  have hnone := h.last?_of_lacks hlacks
  rcases life.executor.compile_cases with ⟨error, hcompile⟩ | ⟨queries, hcompile, -⟩
  · simp only [Life.step, hcompile]
    exact hnone
  · simp only [Life.step, hcompile]
    rw [Executor.last?_withQueries, hnone, ite_self]

/-- What is asked for by name is the last run of the query of this name. -/
theorem Consistent.lastRun?_eq (h : life.Consistent) (hraw : raw ∈ life.compiled)
    (hok : Query.ofJson life.executor.options.compileOptions raw = .ok query) :
    life.executor.lastRun? query.name = life.executor.lastRuns.last? query.identity := by
  have hquery : query ∈ life.executor.queries := h.pipelines.mem_of_raw hraw hok
  have hfound : life.executor.queries.find? (·.name == query.name) = some query := by
    rw [← List.head?_filter, filter_key h.names hquery]
    rfl
  rw [Executor.lastRun?, hfound]
  rfl

/-- Whether the interval of a query has not passed yet since its last run. -/
def Throttled (life : Life) (query : Query) (now : Instant) : Prop :=
  ∃ interval ∈ query.definition.interval,
    ∃ last ∈ life.executor.lastRuns.last? query.identity, secondsBetween last now < interval

theorem isDue_eq_false_iff {now : Instant} :
    isDue life.executor.lastRuns query now = false ↔ life.Throttled query now := by
  unfold isDue Throttled
  cases query.definition.interval with
  | none => simp
  | some interval =>
    cases life.executor.lastRuns.last? query.identity with
    | none => simp
    | some last => simp

/-- One execution, judged at the reading of the clock that belongs to the position of the query:
a throttled query causes nothing and keeps its last run, and any other one is called. -/
theorem Consistent.execution (h : life.Consistent) (hraw : raw ∈ life.compiled)
    (hok : Query.ofJson life.executor.options.compileOptions raw = .ok query) : ∃ n,
    life.executor.queries[n]? = some query ∧ ∀ moments extraTags,
    (life.Throttled query (moments n).now →
      life.callsAt query.name (.execute moments extraTags) = [] ∧
      (life.step (.execute moments extraTags)).2 = .join
        (((life.executor.turns moments).filter fun turn => turn.query.name != query.name).map
          (turnActivity life.executor.options extraTags)) ∧
      (life.step (.execute moments extraTags)).1.executor.lastRuns.last? query.identity
        = life.executor.lastRuns.last? query.identity) ∧
    (¬ life.Throttled query (moments n).now →
      life.callsAt query.name (.execute moments extraTags) = [(moments n).now]) := by
  obtain ⟨n, hposition, hturns⟩ := h.exists_turn hraw hok
  refine ⟨n, hposition, fun moments extraTags => ?_⟩
  obtain ⟨hturn, hlast⟩ := hturns moments
  have hcalls := callsAt_execute hturn extraTags
  refine ⟨fun hthrottled => ?_, fun hthrottled => ?_⟩
  · have hruns : (turnAt life.executor.lastRuns (moments n) query).runs = false :=
      isDue_eq_false_iff.mpr hthrottled
    have hnot := Bool.eq_false_iff.mp hruns
    refine ⟨?_, ?_, ?_⟩
    · rw [hcalls, if_neg hnot]
    · -- the filter drops only the turn of the query, which causes nothing
      refine (Activity.join_map_filter fun turn hmem hname => ?_).symm
      have hsame : turn ∈ (life.executor.turns moments).filter
          fun turn => turn.query.name == query.name :=
        List.mem_filter.mpr ⟨hmem, by simpa using hname⟩
      rw [hturn, List.mem_singleton] at hsame
      rw [hsame, turnActivity, if_neg hnot]
    · rw [hlast extraTags, Executor.Turn.last?, if_neg fun hboth => hnot hboth.1]
      rfl
  · have hruns : (turnAt life.executor.lastRuns (moments n) query).runs = true := by
      by_contra hnot
      exact hthrottled (isDue_eq_false_iff.mp (Bool.eq_false_iff.mpr hnot))
    rw [hcalls, if_pos hruns]
    rfl

end

theorem calls_of_no_execution (life : Life) (name : String) {steps : List Step}
    (h : ∀ moments extraTags, .execute moments extraTags ∉ steps) :
    life.calls name steps = [] := by
  induction steps generalizing life with
  | nil => rfl
  | cons step steps ih =>
    have hrest : ∀ moments extraTags, .execute moments extraTags ∉ steps :=
      fun moments extraTags hmem => h moments extraTags (List.mem_cons_of_mem _ hmem)
    cases step with
    | compile => exact ih _ hrest
    | replace definitions => exact ih _ hrest
    | execute moments extraTags => exact absurd List.mem_cons_self (h moments extraTags)

/-- What holds for a definition after a compilation and some further steps, through all of which
it stayed among the compiled ones. The compilation brought it in if no query had its identity
before. -/
structure Respected (before : Life) (query : Query) (steps : List Step) : Prop where
  /-- The interval passes between any call of the runner and the next. -/
  spaced : ∀ interval ∈ query.definition.interval,
    ((before.step .compile).1.calls query.name steps).IsChain
      fun earlier later => ¬ secondsBetween earlier later < interval
  /-- The latest call is recorded as the last run. -/
  recorded : query.definition.interval ≠ none →
    ∀ now ∈ ((before.step .compile).1.calls query.name steps).getLast?,
      ((before.step .compile).1.after steps).executor.lastRun? query.name = some now
  /-- Before the first call, and without an interval, there is no last run. -/
  unrecorded : before.Lacks query →
    (before.step .compile).1.calls query.name steps = [] ∨ query.definition.interval = none →
      ((before.step .compile).1.after steps).executor.lastRun? query.name = none
  /-- The runner gets the queries of the turns that run, in their order, and nothing else. -/
  handed : ∀ moments extraTags,
    let life := (before.step .compile).1.after steps
    (life.step (.execute moments extraTags)).2.calls
      = ((life.executor.turns moments).filter (·.runs)).map (·.query.definition.query)
  /-- The first execution calls the runner, at the reading of the clock that belongs to the
  position of the query. -/
  first : before.Lacks query →
    (∀ moments extraTags, .execute moments extraTags ∉ steps) → ∃ n,
      let life := (before.step .compile).1.after steps
      life.executor.queries[n]? = some query ∧ ∀ moments extraTags,
        life.callsAt query.name (.execute moments extraTags) = [(moments n).now]
  /-- Without an interval, every execution calls the runner, at this reading. -/
  atWill : query.definition.interval = none → ∃ n,
    let life := (before.step .compile).1.after steps
    life.executor.queries[n]? = some query ∧ ∀ moments extraTags,
      life.callsAt query.name (.execute moments extraTags) = [(moments n).now]
  /-- An execution in which the query is throttled at this reading neither calls the runner for
  it nor changes its last run, and causes only what the turns of the other queries cause. In any
  other execution the runner is called. -/
  judged : ∃ n,
    let life := (before.step .compile).1.after steps
    life.executor.queries[n]? = some query ∧ ∀ moments extraTags,
    (life.Throttled query (moments n).now →
      life.callsAt query.name (.execute moments extraTags) = [] ∧
      (life.step (.execute moments extraTags)).2 = .join
        (((life.executor.turns moments).filter fun turn => turn.query.name != query.name).map
          (turnActivity life.executor.options extraTags)) ∧
      (life.step (.execute moments extraTags)).1.executor.lastRuns.last? query.identity
        = life.executor.lastRuns.last? query.identity) ∧
    (¬ life.Throttled query (moments n).now →
      life.callsAt query.name (.execute moments extraTags) = [(moments n).now])

/-- In every life, throttling is respected for every definition, from the compilation that
brings it in and for as long as it stays among the compiled ones. -/
theorem throttling_respected {options : Options} {definitions : List Json}
    {past steps : List Step} {raw : Json} {query : Query}
    (hok : Query.ofJson options.compileOptions raw = .ok query)
    (hstays : (((new options definitions).after past).step .compile).1.Stays raw steps) :
    Respected ((new options definitions).after past) query steps := by
  have hbefore : ((new options definitions).after past).Consistent :=
    consistent options definitions past
  have hoptions : ((new options definitions).after past).executor.options = options :=
    options_after _ past
  -- of the past only the order that it keeps matters
  generalize (new options definitions).after past = before at *
  have hstart : (before.step .compile).1.Consistent := hbefore.step .compile
  have hlife := hstart.after steps
  have hcompiled := hstays.last
  rw [← hoptions] at hok
  have hstartOk : Query.ofJson (before.step .compile).1.executor.options.compileOptions raw
      = .ok query := by rw [options_step, hok]
  have hlifeOk : Query.ofJson
      ((before.step .compile).1.after steps).executor.options.compileOptions raw
      = .ok query := by rw [options_after, hstartOk]
  have hlastRun := hlife.lastRun?_eq hcompiled hlifeOk
  -- Before its first call a query has no last run: compiling brought it in without one, and
  -- only its own calls record one.
  have hunrecorded (hlacks : before.Lacks query)
      (hcalls : (before.step .compile).1.calls query.name steps = [] ∨
        query.definition.interval = none) :
      ((before.step .compile).1.after steps).executor.lastRuns.last? query.identity = none := by
    have hnone := hbefore.last?_brought_in hlacks
    cases hinterval : query.definition.interval with
    | none => rw [hstart.atWill_run hstays hstartOk hinterval, hnone]
    | some interval =>
      have hcalls : (before.step .compile).1.calls query.name steps = [] := by
        simpa [hinterval] using hcalls
      rw [(hstart.interval_run hstays hstartOk hinterval).1, hcalls, hnone]
      rfl
  refine ⟨?_, ?_, ?_, Executor.calls_execute _, ?_, ?_, hlife.execution hcompiled hlifeOk⟩
  · intro interval hinterval
    exact (hstart.interval_run hstays hstartOk hinterval).2.right_of_append
  · intro hinterval now hnow
    obtain ⟨interval, hsome⟩ := Option.ne_none_iff_exists'.mp hinterval
    rw [hlastRun, (hstart.interval_run hstays hstartOk hsome).1, hnow]
    rfl
  · intro hlacks hcalls
    rw [hlastRun]
    exact hunrecorded hlacks hcalls
  · intro hlacks hquiet
    have hcalls := calls_of_no_execution (before.step .compile).1 query.name hquiet
    obtain ⟨n, hposition, hjudged⟩ := hlife.execution hcompiled hlifeOk
    refine ⟨n, hposition, fun moments extraTags => (hjudged moments extraTags).2 ?_⟩
    -- a throttled query would have a last run
    rintro ⟨interval, -, last, hlast, -⟩
    rw [hunrecorded hlacks (.inl hcalls)] at hlast
    cases hlast
  · intro hinterval
    obtain ⟨n, hposition, hjudged⟩ := hlife.execution hcompiled hlifeOk
    refine ⟨n, hposition, fun moments extraTags => (hjudged moments extraTags).2 ?_⟩
    -- and an interval
    rintro ⟨interval, hsome, -⟩
    rw [hinterval] at hsome
    cases hsome

/-- A query with an interval of ten seconds under a runner that always fails is called at
once, not five seconds later, and again when ten have passed, whatever is replaced and compiled
in between. -/
theorem throttling_respected_failing_runner :
    let raw := bareDefinition "a" 10
    let before := (new .default [.null]).after [.compile, .replace [raw]]
    let at' (seconds : Int) : Step :=
      .execute (fun _ => ⟨⟨seconds, 0⟩, fun _ => .refused "down"⟩) []
    let steps := [at' 0, at' 5, .compile, .replace [.null], .compile, at' 10]
    ∃ query, Query.ofJson Options.default.compileOptions raw = .ok query ∧
      before.Lacks query ∧ (before.step .compile).1.Stays raw steps ∧
      Respected before query steps ∧
      (before.step .compile).1.calls query.name steps = [⟨0, 0⟩, ⟨10, 0⟩] := by
  intro raw before at' steps
  have hstays : (before.step .compile).1.Stays raw steps := by
    have hmem : raw ∈ [raw] := List.mem_cons_self
    exact ⟨hmem, hmem, hmem, hmem, hmem, hmem, hmem⟩
  refine ⟨_, rfl, List.not_mem_nil, hstays, throttling_respected rfl hstays, ?_⟩
  decide +kernel

end Life

end RowSignals
