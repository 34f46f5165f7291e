import RowSignals.Proofs.Executor.Runs

/-!
# Recompilation

A compilation is all or nothing, and the last run of a query outlives it exactly when the
definition of the query stays as it was.

* `DistinctDigests`: no two of some definitions have the same digest.
* `Lacks`: a query whose identity no compiled query has.
* `Consistent.compile_again`: compiling unchanged definitions again changes nothing.
* `recompilation`: all that a compilation does, at any point of any life.
-/

namespace RowSignals

/-- No two different definitions among these have the same digest. -/
def DistinctDigests (definitions : List Json) : Prop :=
  ∀ a ∈ definitions, ∀ b ∈ definitions,
    Digest.digestHex a.compact = Digest.digestHex b.compact → a = b

/-- Definitions whose digests do not repeat have distinct ones. -/
theorem distinctDigests_of_nodup {definitions : List Json}
    (h : (definitions.map fun raw => Digest.digestHex raw.compact).Nodup) :
    DistinctDigests definitions :=
  fun _ ha _ hb heq => List.inj_on_of_nodup_map h ha hb heq

/-- The digest of an identity is that of its definition. -/
theorem digest_of (name : String) (raw : Json) :
    (Identity.of name raw).digest = Digest.digestHex raw.compact := by
  rw [Identity.of]

/-- Without repeated identities, the entries are told by the last run of each identity. -/
theorem LastRuns.eq_map_last? {runs : LastRuns} (h : runs.identities.Nodup) :
    runs.identities.map (fun identity => (identity, runs.last? identity)) = runs := by
  induction runs with
  | nil => rfl
  | cons run runs ih =>
    obtain ⟨known, last⟩ := run
    obtain ⟨hunique, hrest⟩ := List.nodup_cons.mp h
    have htail : (identities runs).map (fun identity =>
          (identity, last? ((known, last) :: runs) identity))
        = (identities runs).map fun identity => (identity, last? runs identity) := by
      refine List.map_congr_left fun identity hidentity => ?_
      have hne : known ≠ identity := fun heq => hunique (heq ▸ hidentity)
      rw [last?_cons, if_neg hne]
    show (known, last? ((known, last) :: runs) known) :: (identities runs).map _ = _
    rw [htail, ih hrest, last?_cons, if_pos rfl]

namespace Executor

/-- With new queries the last runs of those that stay are kept, and there are no others. -/
theorem last?_withQueries (executor : Executor) (queries : List Query) (identity : Identity) :
    (executor.withQueries queries).lastRuns.last? identity
      = if identity ∈ queries.map Query.identity then executor.lastRuns.last? identity
        else none := by
  show LastRuns.last? (queries.map fun query =>
    (query.identity, executor.lastRuns.last? query.identity)) identity = _
  induction queries with
  | nil => rfl
  | cons query queries ih =>
    rw [List.map_cons, LastRuns.last?_cons, ih]
    by_cases hquery : query.identity = identity
    · rw [if_pos hquery, if_pos (hquery ▸ List.mem_cons_self), hquery]
    · have hmem : identity ∈ (query :: queries).map Query.identity
          ↔ identity ∈ queries.map Query.identity := by
        rw [List.map_cons, List.mem_cons]
        exact or_iff_right fun heq => hquery heq.symm
      rw [if_neg hquery]
      simp only [hmem]

end Executor

namespace Life

section
variable {life : Life}

/-- An identity that was compiled is that of a definition that was compiled. -/
theorem Consistent.exists_raw (h : life.Consistent) {identity : Identity}
    (hidentity : identity ∈ life.executor.lastRuns.identities) :
    ∃ raw ∈ life.compiled, ∃ name, identity = Identity.of name raw := by
  rw [h.keyed] at hidentity
  obtain ⟨query, hquery, rfl⟩ := List.mem_map.mp hidentity
  obtain ⟨raw, hraw, hok⟩ := h.pipelines.exists_raw hquery
  exact ⟨raw, hraw, query.name, identity_of_ofJson hok⟩

/-- No compiled query has the identity of this one. -/
def Lacks (life : Life) (query : Query) : Prop :=
  query.identity ∉ life.executor.queries.map Query.identity

/-- A definition that was not compiled has an identity of its own, unless a compiled definition
shares its digest. -/
theorem Consistent.lacks (h : life.Consistent) {raw : Json} {query : Query}
    (hok : Query.ofJson life.executor.options.compileOptions raw = .ok query)
    (hraw : raw ∉ life.compiled) (hdigests : DistinctDigests (raw :: life.compiled)) :
    life.Lacks query := by
  intro hmem
  rw [← h.keyed] at hmem
  obtain ⟨other, hother, found, heq⟩ := h.exists_raw hmem
  have hdigest := congrArg Identity.digest heq
  rw [identity_of_ofJson hok, digest_of, digest_of] at hdigest
  have hsame := hdigests raw List.mem_cons_self other (List.mem_cons_of_mem _ hother) hdigest
  rw [hsame] at hraw
  exact hraw hother

theorem Consistent.last?_of_lacks (h : life.Consistent) {query : Query}
    (hlacks : life.Lacks query) : life.executor.lastRuns.last? query.identity = none := by
  refine LastRuns.last?_of_not_mem ?_
  rw [h.keyed]
  exact hlacks

/-- Compiling the definitions again that the queries come from changes nothing. -/
theorem Consistent.compile_again (h : life.Consistent)
    (hsame : life.executor.definitions = life.compiled) :
    life.executor.compile
      = (.ok (.log (.compiled life.executor.queries.length)), life.executor) := by
  have hpipelines := h.pipelines
  rw [← hsame] at hpipelines
  have hqueries := compileFrom_of_pipelines hpipelines h.names
    (fun query _ => List.not_mem_nil : ∀ query ∈ life.executor.queries, query.name ∉ [])
  -- every entry is carried over, in the order in which it stands already
  have hruns : Executor.carryOver life.executor.queries life.executor.lastRuns []
      = life.executor.lastRuns := by
    have hdistinct : life.executor.lastRuns.identities.Nodup := h.keyed ▸ h.distinct
    have hmap := LastRuns.eq_map_last? hdistinct
    rw [h.keyed, List.map_map] at hmap
    exact (carryOver_eq h.distinct fun query _ => List.not_mem_nil).trans hmap
  unfold Executor.compile
  rw [hqueries]
  dsimp only
  rw [hruns]

/-- What a compilation that succeeds leaves. -/
structure Recompiled (life : Life) (later : Executor) : Prop where
  /-- The queries are those of the definitions, in their order. -/
  pipelines : Pipelines life.executor.options.compileOptions life.executor.definitions
    later.queries
  names : (later.queries.map Query.name).Nodup
  /-- Exactly the identities of the queries have an entry. -/
  keyed : later.lastRuns.identities = later.queries.map Query.identity
  /-- A query whose identity had an entry keeps its last run. -/
  kept : ∀ query ∈ later.queries, query.identity ∈ life.executor.lastRuns.identities →
    later.lastRuns.last? query.identity = life.executor.lastRuns.last? query.identity
  /-- Any other identity has no last run. -/
  fresh : ∀ identity, identity ∉ life.executor.lastRuns.identities →
    later.lastRuns.last? identity = none
  /-- A definition that was compiled before keeps its query and its last run. -/
  unchanged : ∀ raw ∈ life.executor.definitions, raw ∈ life.compiled → ∀ query,
    Query.ofJson life.executor.options.compileOptions raw = .ok query →
    query ∈ life.executor.queries ∧
      later.lastRuns.last? query.identity = life.executor.lastRuns.last? query.identity
  /-- A definition that was not compiled before has no last run, as long as different
  definitions have different digests. -/
  changed : ∀ raw ∈ life.executor.definitions, raw ∉ life.compiled →
    DistinctDigests (raw :: life.compiled) → ∀ query,
    Query.ofJson life.executor.options.compileOptions raw = .ok query →
    later.lastRuns.last? query.identity = none
  /-- Definitions and options stay as they were. -/
  definitions_eq : later.definitions = life.executor.definitions
  options_eq : later.options = life.executor.options

/-- Taking over queries leaves what a compilation promises. -/
theorem Consistent.recompiled (h : life.Consistent) {queries : List Query}
    (hpipelines : Pipelines life.executor.options.compileOptions life.executor.definitions
      queries)
    (hnames : (queries.map Query.name).Nodup) :
    Recompiled life (life.executor.withQueries queries) where
  pipelines := hpipelines
  names := hnames
  keyed := by simp [Executor.withQueries, LastRuns.identities]
  kept := by
    intro query hquery _
    have hmem : query.identity ∈ queries.map Query.identity := List.mem_map_of_mem hquery
    rw [Executor.last?_withQueries, if_pos hmem]
  fresh := by
    intro identity hidentity
    rw [Executor.last?_withQueries, LastRuns.last?_of_not_mem hidentity, ite_self]
  unchanged := by
    intro raw hraw hcompiled query hok
    have hquery := hpipelines.mem_of_raw hraw hok
    refine ⟨h.pipelines.mem_of_raw hcompiled hok, ?_⟩
    rw [Executor.last?_withQueries, if_pos (List.mem_map_of_mem hquery)]
  changed := by
    intro raw hraw hcompiled hdigests query hok
    rw [Executor.last?_withQueries, h.last?_of_lacks (h.lacks hok hcompiled hdigests), ite_self]
  definitions_eq := rfl
  options_eq := rfl

end

/-- At any point of any life, a compilation that fails leaves the executor as it was, and one
that succeeds leaves the queries of the definitions, each with the last run of its unchanged
definition. Compiling unchanged definitions again leaves everything as it was, and changes no
later call and no later signal. -/
theorem recompilation (options : Options) (definitions : List Json) (steps : List Step) :
    let life := (new options definitions).after steps
    (∀ error, life.executor.compile.1 = .error error →
      life.executor.compile.2 = life.executor) ∧
    (∀ activity, life.executor.compile.1 = .ok activity →
      Recompiled life life.executor.compile.2) ∧
    (life.executor.definitions = life.compiled → ∀ later,
      life.after (.compile :: later) = life.after later ∧
      (life.activity (.compile :: later)).calls = (life.activity later).calls ∧
      (life.activity (.compile :: later)).signals = (life.activity later).signals) := by
  intro life
  have hlife : life.Consistent := consistent options definitions steps
  refine ⟨?_, ?_, ?_⟩
  · intro error herror
    rcases life.executor.compile_cases with ⟨error, hcompile⟩ | ⟨queries, hcompile, -⟩
    · rw [hcompile]
    · rw [hcompile] at herror
      cases herror
  · intro activity hok
    rcases life.executor.compile_cases with ⟨error, hcompile⟩ | ⟨queries, hcompile, hq, hnames⟩
    · rw [hcompile] at hok
      cases hok
    · rw [hcompile]
      exact hlife.recompiled hq hnames
  · intro hsame later
    -- The compiled definitions are the given ones, so the life after the step is the life
    -- itself.
    have hcompile := hlife.compile_again hsame
    have hstep : life.step .compile
        = (life, .log (.compiled life.executor.queries.length)) := by
      simp only [step, hcompile, hsame]
    refine ⟨?_, ?_, ?_⟩
    · simp only [after, hstep]
    · simp only [activity, hstep]
      rfl
    · simp only [activity, hstep]
      rfl

/-- A definition without columns. -/
def bareDefinition (name : String) (interval : Int) : Json :=
  .object [("collection_interval", .ofInt interval), ("columns", .array []),
    ("name", .string name), ("query", .string name)]

/-- When one of two definitions is exchanged after an execution, compiling succeeds, and the
new definition has no last run, since its digest is another one. -/
theorem recompilation_exchange :
    let moments : Nat → Executor.Moment := fun _ => ⟨⟨0, 0⟩, fun _ => .rows [] none⟩
    let life := (new .default [bareDefinition "a" 10, bareDefinition "b" 10]).after
      [.compile, .execute moments [], .replace [bareDefinition "a" 10, bareDefinition "b" 20]]
    Recompiled life life.executor.compile.2 ∧
    bareDefinition "b" 20 ∉ life.compiled ∧
    DistinctDigests (bareDefinition "b" 20 :: life.compiled) ∧
    ∀ query, Query.ofJson Options.default.compileOptions (bareDefinition "b" 20) = .ok query →
      life.executor.compile.2.lastRuns.last? query.identity = none := by
  intro moments life
  have hcompile : life.executor.compile.1 = .ok (.log (.compiled 2)) := rfl
  have hrecompiled : Recompiled life life.executor.compile.2 :=
    (recompilation _ _ _).2.1 _ hcompile
  have hnew : bareDefinition "b" 20 ∉ [bareDefinition "a" 10, bareDefinition "b" 10] := by
    simp [bareDefinition, Json.ofInt]
  have hdigests : ([bareDefinition "b" 20, bareDefinition "a" 10, bareDefinition "b" 10].map
      fun raw => Digest.digestHex raw.compact).Nodup := by decide +kernel
  have hdistinct := distinctDigests_of_nodup hdigests
  refine ⟨hrecompiled, hnew, hdistinct, fun query hok => ?_⟩
  exact hrecompiled.changed _ (List.mem_cons_of_mem _ List.mem_cons_self) hnew hdistinct query hok

end Life

end RowSignals
