import Mathlib.Data.List.Forall2
import Mathlib.Data.List.Nodup
import RowSignals.Executor
import RowSignals.Proofs.Results

/-!
# Lives of executors

What every executor keeps, whatever happens to it.

* `LastRuns.last?_put`, `carryOver_eq`: the times of the last runs as a map from identities.
* `compile_cases`, `settled`: all that a compilation and an execution can do.
* `Step`, `Life`: what happens to an executor, with the definitions that its queries were
  compiled from.
* `Life.Consistent`: the invariant; `consistent`: every life has it.
-/

namespace RowSignals

open Calendar (Instant)

/-! ## The times of the last runs as a map -/

namespace LastRuns

/-- The identities that have an entry. -/
def identities (runs : LastRuns) : List Identity :=
  runs.map Prod.fst

theorem last?_cons (known : Identity) (last : Option Instant) (runs : LastRuns)
    (identity : Identity) : last? ((known, last) :: runs) identity
      = if known = identity then last else runs.last? identity := by
  by_cases h : known = identity
  · subst h
    simp [last?]
  · have hbeq : (identity == known) = false := beq_eq_false_iff_ne.mpr (Ne.symm h)
    simp [last?, List.lookup_cons, h, hbeq]

/-- Putting a last run changes it for its identity alone. -/
theorem last?_put (identity other : Identity) (last : Option Instant) (runs : LastRuns) :
    (runs.put identity last).last? other
      = if identity = other then last else runs.last? other := by
  induction runs with
  | nil => exact last?_cons identity last [] other
  | cons run runs ih =>
    obtain ⟨known, before⟩ := run
    unfold put
    by_cases h : known = identity
    · subst h
      rw [if_pos rfl, last?_cons, last?_cons]
      split
      · rfl
      · rfl
    · rw [if_neg h, last?_cons, ih, last?_cons]
      by_cases hother : known = other
      · have hne : ¬ identity = other := fun heq => h (hother.trans heq.symm)
        rw [if_pos hother, if_pos hother, if_neg hne]
      · rw [if_neg hother, if_neg hother]

theorem put_of_mem {identity : Identity} {runs : LastRuns} (last : Option Instant)
    (h : identity ∈ runs.identities) : (runs.put identity last).identities = runs.identities := by
  induction runs with
  | nil => cases h
  | cons run runs ih =>
    obtain ⟨known, before⟩ := run
    unfold put
    by_cases hknown : known = identity
    · rw [if_pos hknown]
      rfl
    · have hmem : identity ∈ identities runs := by
        rcases List.mem_cons.mp h with heq | hmem
        · exact absurd heq.symm hknown
        · exact hmem
      rw [if_neg hknown]
      exact congrArg (known :: ·) (ih hmem)

theorem put_of_not_mem {identity : Identity} {runs : LastRuns} (last : Option Instant)
    (h : identity ∉ runs.identities) : runs.put identity last = runs ++ [(identity, last)] := by
  induction runs with
  | nil => rfl
  | cons run runs ih =>
    obtain ⟨known, before⟩ := run
    have hknown : known ≠ identity := fun heq => h (heq ▸ List.mem_cons_self)
    have hmem : identity ∉ identities runs := fun hmem => h (List.mem_cons_of_mem _ hmem)
    unfold put
    rw [if_neg hknown, ih hmem]
    rfl

/-- There is no entry for an identity that is not among those with one. -/
theorem lookup_eq_none_iff {identity : Identity} {runs : LastRuns} :
    runs.lookup identity = none ↔ identity ∉ runs.identities := by
  rw [List.lookup_eq_none_iff, identities, List.mem_map]
  constructor
  · rintro h ⟨run, hrun, rfl⟩
    simpa using h run hrun
  · intro h run hrun
    rw [bne_iff_ne]
    rintro rfl
    exact h ⟨run, hrun, rfl⟩

/-- Entering an identity that has an entry changes nothing. -/
theorem enter_of_mem {identity : Identity} {runs : LastRuns} (h : identity ∈ runs.identities) :
    runs.enter identity = runs := by
  unfold enter
  split
  · rfl
  · rename_i hnone
    exact absurd h (lookup_eq_none_iff.mp hnone)

/-- Removing an identity leaves the last runs of the others. -/
theorem last?_remove {identity other : Identity} (runs : LastRuns) (h : identity ≠ other) :
    (runs.remove identity).last? other = runs.last? other := by
  induction runs with
  | nil => rfl
  | cons run runs ih =>
    obtain ⟨known, before⟩ := run
    by_cases hknown : known = identity
    · have hremove : remove identity ((known, before) :: runs) = remove identity runs := by
        simp [remove, hknown]
      have hother : known ≠ other := hknown ▸ h
      rw [hremove, ih, last?_cons, if_neg hother]
    · have hremove : remove identity ((known, before) :: runs)
          = (known, before) :: remove identity runs := by
        simp [remove, hknown]
      rw [hremove, last?_cons, last?_cons, ih]

theorem last?_of_not_mem {identity : Identity} {runs : LastRuns}
    (h : identity ∉ runs.identities) : runs.last? identity = none := by
  rw [last?, lookup_eq_none_iff.mpr h]
  rfl

end LastRuns

/-! ## Compilation -/

/-- `Pipelines options definitions queries`: the queries are those of the definitions, in the
same order. -/
def Pipelines (options : CompileOptions) (definitions : List Json) (queries : List Query) :
    Prop :=
  List.Forall₂ (fun raw query => Query.ofJson options raw = .ok query) definitions queries

/-- The identity of a query is made of its name and its definition. -/
theorem identity_of_ofJson {options : CompileOptions} {raw : Json} {query : Query}
    (h : Query.ofJson options raw = .ok query) :
    query.identity = Identity.of query.name raw := by
  obtain ⟨definition, -, h⟩ := bind_eq_ok.mp h
  obtain ⟨hostname, -, h⟩ := bind_eq_ok.mp h
  obtain ⟨columns, -, h⟩ := bind_eq_ok.mp h
  obtain ⟨extras, -, h⟩ := bind_eq_ok.mp h
  cases h
  rfl

/-- Definitions are compiled one by one, and their names neither repeat nor occur among those
before. -/
theorem compileFrom_eq_ok {options : CompileOptions} {seen : List String}
    {definitions : List Json} {queries : List Query}
    (h : Executor.compileFrom options seen definitions = .ok queries) :
    Pipelines options definitions queries ∧ (queries.map Query.name).Nodup ∧
      ∀ query ∈ queries, query.name ∉ seen := by
  induction definitions generalizing seen queries with
  | nil =>
    cases h
    exact ⟨.nil, .nil, nofun⟩
  | cons raw definitions ih =>
    obtain ⟨query, hquery, h⟩ := bind_eq_ok.mp h
    split at h
    · cases h
    · rename_i hseen
      obtain ⟨others, hothers, h⟩ := bind_eq_ok.mp h
      cases h
      obtain ⟨hpipelines, hnames, hnew⟩ := ih hothers
      have hquerySeen : query.name ∉ seen := by simpa using hseen
      -- The queries after it were compiled with its name among those seen.
      have hunique : query.name ∉ others.map Query.name := by
        intro hmem
        obtain ⟨other, hother, heq⟩ := List.mem_map.mp hmem
        exact hnew other hother (heq ▸ List.mem_cons_self)
      refine ⟨.cons hquery hpipelines, ?_, ?_⟩
      · exact List.nodup_cons.mpr ⟨hunique, hnames⟩
      · intro other hother
        rcases List.mem_cons.mp hother with rfl | hother
        · exact hquerySeen
        · exact fun hmem => hnew other hother (List.mem_cons_of_mem _ hmem)

/-- Compiling the definitions of compiled queries again gives the same queries. -/
theorem compileFrom_of_pipelines {options : CompileOptions} {seen : List String}
    {definitions : List Json} {queries : List Query}
    (hpipelines : Pipelines options definitions queries)
    (hnames : (queries.map Query.name).Nodup) (hnew : ∀ query ∈ queries, query.name ∉ seen) :
    Executor.compileFrom options seen definitions = .ok queries := by
  induction hpipelines generalizing seen with
  | nil => rfl
  | @cons raw query definitions queries hquery hrest ih =>
    obtain ⟨hunique, hnames⟩ := List.nodup_cons.mp hnames
    have hseen : ¬ seen.contains query.name = true := by
      simpa using hnew query List.mem_cons_self
    have hothers : Executor.compileFrom options (query.name :: seen) definitions
        = .ok queries := by
      refine ih hnames fun other hother hmem => ?_
      rcases List.mem_cons.mp hmem with heq | hmem
      · exact hunique (heq ▸ List.mem_map_of_mem hother)
      · exact hnew other (List.mem_cons_of_mem _ hother) hmem
    refine bind_eq_ok.mpr ⟨query, hquery, ?_⟩
    rw [if_neg hseen]
    exact bind_eq_ok.mpr ⟨queries, hothers, rfl⟩

/-- When no identity repeats, taking the entries apart one by one gives every query its old
entry. -/
theorem carryOver_eq {queries : List Query} {old runs : LastRuns}
    (hdistinct : (queries.map Query.identity).Nodup)
    (hnew : ∀ query ∈ queries, query.identity ∉ runs.identities) :
    Executor.carryOver queries old runs
      = runs ++ queries.map fun query => (query.identity, old.last? query.identity) := by
  induction queries generalizing old runs with
  | nil => exact (List.append_nil runs).symm
  | cons query queries ih =>
    obtain ⟨hunique, hdistinct⟩ := List.nodup_cons.mp hdistinct
    have hne : ∀ other ∈ queries, query.identity ≠ other.identity :=
      fun other hother heq => hunique (heq ▸ List.mem_map_of_mem hother)
    have hrest : ∀ other ∈ queries, other.identity
        ∉ LastRuns.identities (runs ++ [(query.identity, old.last? query.identity)]) := by
      intro other hother hmem
      rw [LastRuns.identities, List.map_append, List.mem_append] at hmem
      rcases hmem with hmem | hmem
      · exact hnew other (List.mem_cons_of_mem _ hother) hmem
      · exact hne other hother (List.mem_singleton.mp hmem).symm
    rw [Executor.carryOver, LastRuns.put_of_not_mem _ (hnew query List.mem_cons_self),
      ih hdistinct hrest, List.append_assoc]
    -- Taking the entry of one identity out leaves those of the others.
    have hold : queries.map (fun other =>
          (other.identity, (old.remove query.identity).last? other.identity))
        = queries.map fun other => (other.identity, old.last? other.identity) :=
      List.map_congr_left fun other hother => by
        rw [LastRuns.last?_remove old (hne other hother)]
    rw [hold]
    rfl

/-! ## Turns -/

namespace Executor

/-- The turns of an execution. -/
def turns (executor : Executor) (moments : Nat → Moment) : List Turn :=
  (turnsFrom moments 0 executor.queries executor.lastRuns).1

/-- The turn of a query at a moment when the last runs are as given. -/
def turnAt (runs : LastRuns) (moment : Moment) (query : Query) : Turn :=
  ⟨query, moment, isDue runs query moment.now⟩

/-- The time that a turn leaves as that of the last run of its query. -/
def Turn.last? (turn : Turn) (runs : LastRuns) : Option Instant :=
  if turn.runs ∧ turn.query.definition.interval.isSome then some turn.moment.now
  else runs.last? turn.query.identity

/-- The times of the last runs after one turn. -/
def afterTurn (runs : LastRuns) (query : Query) (now : Instant) : LastRuns :=
  if isDue runs query now then recordRun runs query now else runs

section
variable {runs : LastRuns} {query : Query} (now : Instant)

theorem identities_afterTurn (h : query.identity ∈ runs.identities) :
    (afterTurn runs query now).identities = runs.identities := by
  unfold afterTurn recordRun
  split
  · split
    · exact LastRuns.put_of_mem _ h
    · rfl
  · rfl

theorem last?_afterTurn_of_ne {other : Identity} (h : query.identity ≠ other) :
    (afterTurn runs query now).last? other = runs.last? other := by
  unfold afterTurn recordRun
  split
  · split
    · rw [LastRuns.last?_put, if_neg h]
    · rfl
  · rfl

/-- After its turn a query has the last run that the turn says. -/
theorem last?_afterTurn_self (moment : Moment) :
    (afterTurn runs query moment.now).last? query.identity
      = (turnAt runs moment query).last? runs := by
  unfold afterTurn recordRun turnAt Turn.last?
  by_cases hdue : isDue runs query moment.now = true
  · by_cases hinterval : query.definition.interval.isSome = true
    · rw [if_pos hdue, if_pos hinterval, if_pos ⟨hdue, hinterval⟩, LastRuns.last?_put, if_pos rfl]
    · rw [if_pos hdue, if_neg hinterval, if_neg fun h => hinterval h.2]
  · rw [if_neg hdue, if_neg fun h => hdue h.1]

end

/-- Whether a query is due depends only on its own last run. -/
theorem turnAt_congr {runs later : LastRuns} {query : Query} (moment : Moment)
    (h : later.last? query.identity = runs.last? query.identity) :
    turnAt later moment query = turnAt runs moment query := by
  rw [turnAt, turnAt, isDue, isDue, h]

/-- What the turns of queries are and what they leave, when no identity repeats and all have
an entry: every query is judged by the last run that it had at the start, and changes no entry
but its own. -/
structure Settled (moments : Nat → Moment) (position : Nat) (queries : List Query)
    (runs : LastRuns) (turns : List Turn) (later : LastRuns) : Prop where
  turns_eq : turns = queries.mapIdx fun n query => turnAt runs (moments (position + n)) query
  identities_eq : later.identities = runs.identities
  others : ∀ identity ∉ queries.map Query.identity,
    later.last? identity = runs.last? identity
  own : ∀ turn ∈ turns, later.last? turn.query.identity = turn.last? runs

/-- The turns of distinct queries that have entries do not disturb each other. By induction on
the queries: those after the first find their last runs as they were. -/
theorem settled (moments : Nat → Moment) (position : Nat) {queries : List Query}
    {runs : LastRuns} (hdistinct : (queries.map Query.identity).Nodup)
    (hknown : ∀ query ∈ queries, query.identity ∈ runs.identities) :
    Settled moments position queries runs (turnsFrom moments position queries runs).1
      (turnsFrom moments position queries runs).2 := by
  induction queries generalizing position runs with
  | nil => exact ⟨rfl, rfl, fun _ _ => rfl, nofun⟩
  | cons query queries ih =>
    obtain ⟨hunique, hdistinct⟩ := List.nodup_cons.mp hdistinct
    have hne : ∀ other ∈ queries, query.identity ≠ other.identity :=
      fun other hother heq => hunique (heq ▸ List.mem_map_of_mem hother)
    have hquery : query.identity ∈ runs.identities := hknown query List.mem_cons_self
    have henter : runs.enter query.identity = runs := LastRuns.enter_of_mem hquery
    let now := (moments position).now
    let rest := turnsFrom moments (position + 1) queries (afterTurn runs query now)
    have hturns : turnsFrom moments position (query :: queries) runs
        = (turnAt runs (moments position) query :: rest.1, rest.2) := by
      rw [turnsFrom, henter]
      rfl
    have hids := identities_afterTurn now hquery
    -- the rest starts from what the first turn left, and no later query has its identity
    have ih : Settled moments (position + 1) queries (afterTurn runs query now) rest.1 rest.2 :=
      ih (position + 1) hdistinct fun other hother =>
        hids.symm ▸ hknown other (List.mem_cons_of_mem _ hother)
    rw [hturns]
    have hkeep (other : Query) (hother : other ∈ queries) :
        (afterTurn runs query now).last? other.identity = runs.last? other.identity :=
      last?_afterTurn_of_ne now (hne other hother)
    refine ⟨?_, ?_, ?_, ?_⟩
    · rw [List.mapIdx_cons, ih.turns_eq]
      refine congrArg (turnAt runs (moments position) query :: ·) ?_
      rw [List.mapIdx_eq_mapIdx_iff]
      intro n hn
      have hposition : position + 1 + n = position + (n + 1) := by omega
      rw [turnAt_congr _ (hkeep _ (List.getElem_mem hn)), hposition]
    · exact ih.identities_eq.trans hids
    · intro identity hidentity
      have hother : query.identity ≠ identity :=
        fun heq => hidentity (heq ▸ List.mem_cons_self)
      rw [ih.others identity fun hmem => hidentity (List.mem_cons_of_mem _ hmem),
        last?_afterTurn_of_ne now hother]
    · intro turn hturn
      rcases List.mem_cons.mp hturn with rfl | hturn
      · show rest.2.last? query.identity = _
        rw [ih.others query.identity hunique, last?_afterTurn_self]
      · have hmem : turn.query ∈ queries := by
          rw [ih.turns_eq] at hturn
          obtain ⟨n, hn, rfl⟩ := List.mem_mapIdx.mp hturn
          exact List.getElem_mem hn
        rw [ih.own turn hturn, Turn.last?, Turn.last?, hkeep _ hmem]

end Executor

/-! ## Distinct identities -/

theorem identity_name {options : CompileOptions} {raw : Json} {query : Query}
    (h : Query.ofJson options raw = .ok query) : query.identity.name = query.name := by
  rw [identity_of_ofJson h]
  rfl

theorem Pipelines.exists_raw {options : CompileOptions} {definitions : List Json}
    {queries : List Query} (h : Pipelines options definitions queries) {query : Query}
    (hquery : query ∈ queries) : ∃ raw ∈ definitions, Query.ofJson options raw = .ok query := by
  induction h with
  | nil => cases hquery
  | @cons raw other definitions queries hother hrest ih =>
    rcases List.mem_cons.mp hquery with rfl | hquery
    · exact ⟨raw, List.mem_cons_self, hother⟩
    · obtain ⟨found, hfound, hok⟩ := ih hquery
      exact ⟨found, List.mem_cons_of_mem _ hfound, hok⟩

theorem Pipelines.mem_of_raw {options : CompileOptions} {definitions : List Json}
    {queries : List Query} (h : Pipelines options definitions queries) {raw : Json}
    (hraw : raw ∈ definitions) {query : Query} (hok : Query.ofJson options raw = .ok query) :
    query ∈ queries := by
  induction h with
  | nil => cases hraw
  | @cons other found definitions queries hother hrest ih =>
    rcases List.mem_cons.mp hraw with rfl | hraw
    · rw [hok] at hother
      cases hother
      exact List.mem_cons_self
    · exact List.mem_cons_of_mem _ (ih hraw)

/-- Queries of distinct names have distinct identities. -/
theorem Pipelines.identities_nodup {options : CompileOptions} {definitions : List Json}
    {queries : List Query} (h : Pipelines options definitions queries)
    (hnames : (queries.map Query.name).Nodup) : (queries.map Query.identity).Nodup := by
  refine List.Nodup.of_map Identity.name ?_
  rw [List.map_map]
  have hname : queries.map (Identity.name ∘ Query.identity) = queries.map Query.name := by
    refine List.map_congr_left fun query hquery => ?_
    obtain ⟨raw, -, hok⟩ := h.exists_raw hquery
    exact identity_name hok
  rwa [hname]

namespace Executor

/-- The executor after a compilation that gave the queries. -/
def withQueries (executor : Executor) (queries : List Query) : Executor :=
  { executor with
    queries := queries
    lastRuns := queries.map fun query =>
      (query.identity, executor.lastRuns.last? query.identity) }

/-- A compilation either fails and leaves the executor as it was, or it gives the queries of
the definitions, with distinct names, and every query keeps the last run of its identity. -/
theorem compile_cases (executor : Executor) :
    (∃ error, executor.compile = (.error error, executor)) ∨
    ∃ queries, executor.compile
        = (.ok (.log (.compiled queries.length)), executor.withQueries queries) ∧
      Pipelines executor.options.compileOptions executor.definitions queries ∧
      (queries.map Query.name).Nodup := by
  unfold compile
  cases hqueries : compileFrom executor.options.compileOptions [] executor.definitions with
  | error error => exact .inl ⟨error, rfl⟩
  | ok queries =>
    obtain ⟨hpipelines, hnames, -⟩ := compileFrom_eq_ok hqueries
    have hruns : carryOver queries executor.lastRuns []
        = queries.map fun query => (query.identity, executor.lastRuns.last? query.identity) :=
      carryOver_eq (hpipelines.identities_nodup hnames) nofun
    refine .inr ⟨queries, ?_, hpipelines, hnames⟩
    dsimp only
    rw [hruns]
    rfl

end Executor

/-! ## Lives of executors -/

/-- One thing that happens to an executor. An execution brings the readings of the clock and
the answers of the runner that it meets, so that moving the clock needs no step of its own. -/
inductive Step where
  | compile
  | replace (definitions : List Json)
  | execute (moments : Nat → Executor.Moment) (extraTags : List String)

/-- An executor with the definitions that its queries were compiled from. -/
structure Life where
  executor : Executor
  compiled : List Json

namespace Life

/-- A new executor, before anything was compiled. -/
def new (options : Options) (definitions : List Json) : Life :=
  ⟨.new options definitions, []⟩

/-- What a step leaves and what it causes. -/
def step (life : Life) : Step → Life × Activity
  | .compile =>
    match life.executor.compile with
    | (.ok activity, executor) => (⟨executor, life.executor.definitions⟩, activity)
    | (.error _, executor) => (⟨executor, life.compiled⟩, .none)
  | .replace definitions => (⟨life.executor.replaceDefinitions definitions, life.compiled⟩, .none)
  | .execute moments extraTags =>
    let (executor, activity) := life.executor.execute moments extraTags
    (⟨executor, life.compiled⟩, activity)

/-- What some steps leave. -/
def after (life : Life) : List Step → Life
  | [] => life
  | step :: steps => (life.step step).1.after steps

/-- What some steps cause. -/
def activity (life : Life) : List Step → Activity
  | [] => .none
  | step :: steps => (life.step step).2 ++ (life.step step).1.activity steps

/-- What every life keeps: the queries are those of the compiled definitions, in their order
and with distinct names, and exactly their identities have an entry among the last runs. -/
structure Consistent (life : Life) : Prop where
  pipelines : Pipelines life.executor.options.compileOptions life.compiled life.executor.queries
  names : (life.executor.queries.map Query.name).Nodup
  keyed : life.executor.lastRuns.identities = life.executor.queries.map Query.identity

theorem consistent_new (options : Options) (definitions : List Json) :
    (new options definitions).Consistent :=
  ⟨.nil, .nil, rfl⟩

section
variable {life : Life}

theorem Consistent.distinct (h : life.Consistent) :
    (life.executor.queries.map Query.identity).Nodup :=
  h.pipelines.identities_nodup h.names

theorem Consistent.known (h : life.Consistent) :
    ∀ query ∈ life.executor.queries, query.identity ∈ life.executor.lastRuns.identities := by
  intro query hquery
  rw [h.keyed]
  exact List.mem_map_of_mem hquery

/-- Every execution of a consistent life judges each query by its own last run. -/
theorem Consistent.settled (h : life.Consistent) (moments : Nat → Executor.Moment) :
    Executor.Settled moments 0 life.executor.queries life.executor.lastRuns
      (life.executor.turns moments)
      (Executor.turnsFrom moments 0 life.executor.queries life.executor.lastRuns).2 :=
  Executor.settled moments 0 h.distinct h.known

theorem Consistent.step (h : life.Consistent) (step : Step) :
    (life.step step).1.Consistent := by
  cases step with
  | compile =>
    rcases life.executor.compile_cases with ⟨error, hcompile⟩ | ⟨queries, hcompile, hq⟩
    · simp only [Life.step, hcompile]
      exact h
    · simp only [Life.step, hcompile]
      refine ⟨hq.1, hq.2, ?_⟩
      simp [Executor.withQueries, LastRuns.identities]
  | replace definitions => exact ⟨h.pipelines, h.names, h.keyed⟩
  | execute moments extraTags =>
    refine ⟨h.pipelines, h.names, ?_⟩
    exact (h.settled moments).identities_eq.trans h.keyed

theorem Consistent.after (h : life.Consistent) (steps : List Step) :
    (life.after steps).Consistent := by
  induction steps generalizing life with
  | nil => exact h
  | cons step steps ih => exact ih (h.step step)

/-- An executor is in order at any point of its life. -/
theorem consistent (options : Options) (definitions : List Json) (steps : List Step) :
    ((new options definitions).after steps).Consistent :=
  (consistent_new options definitions).after steps

end

/-- No step changes the options. -/
theorem options_step (life : Life) (step : Step) :
    (life.step step).1.executor.options = life.executor.options := by
  cases step with
  | compile =>
    rcases life.executor.compile_cases with ⟨error, hcompile⟩ | ⟨queries, hcompile, -⟩
    · simp only [Life.step, hcompile]
    · simp only [Life.step, hcompile]
      rfl
  | replace definitions => rfl
  | execute moments extraTags => rfl

theorem options_after (life : Life) (steps : List Step) :
    (life.after steps).executor.options = life.executor.options := by
  induction steps generalizing life with
  | nil => rfl
  | cons step steps ih => exact (ih _).trans (life.options_step step)

end Life

end RowSignals
