import RowSignals.Manager
import RowSignals.Proofs.CustomQueries.Naming
import RowSignals.Proofs.Executor.Isolation

/-!
# Repeated custom queries

The same query is not taken twice from the shared ones, and not at all if the instance has it.
The instance's own queries are taken as they are, also those that are there twice. What is merged
is what runs: once for each place in a first cycle, and at most once in a later one.

* `Apart`: lists in which no definition is there twice.
* `extendWith_eq_append`: what is put behind queries that are there is apart from them.
* `Executor.calls_afterCycles_sublist`, `Executor.calls_first_cycle`: the calls of a cycle.
* `mergeCustomQueries_repeats`: where definitions are repeated, and what a manager runs.
-/

namespace RowSignals

/-! ## Merged queries -/

/-- No definition is there twice. -/
def Apart (definitions : List Json) : Prop :=
  definitions.Pairwise fun a b => ¬ a.same b

/-- Behind the queries that are there come others, each apart from all that stand before it. -/
theorem extendWith_eq_append (overridden : List String) (merged shared : List Json) :
    ∃ added, extendWith overridden merged shared = merged ++ added ∧ Apart added ∧
      ∀ a ∈ merged, ∀ b ∈ added, ¬ a.same b := by
  obtain ⟨kept, hsorted, hmerged, hkept⟩ := extendWith_kept overridden merged shared
  refine ⟨kept.map (shared[·]), hmerged, ?_, ?_⟩
  · refine List.pairwise_map.mpr (hsorted.imp_of_mem fun {i j} hi hj hlt hsame => ?_)
    exact (hkept j).mpr (.inr (.inr ⟨i, hi, hlt, hsame⟩)) hj
  · intro a ha b hb hsame
    obtain ⟨j, hj, rfl⟩ := List.mem_map.mp hb
    exact (hkept j).mpr (.inr (.inl ⟨a, ha, hsame⟩)) hj

section
variable {own added : List Json}

/-- Definitions that are apart from each other and from the own ones leave it to these whether
one is there twice. -/
theorem apart_append_iff (hadded : Apart added) (hapart : ∀ a ∈ own, ∀ b ∈ added, ¬ a.same b) :
    Apart (own ++ added) ↔ Apart own := by
  unfold Apart at hadded ⊢
  rw [List.pairwise_append]
  exact and_iff_left ⟨hadded, hapart⟩

/-- A definition that is there twice is there twice among the first ones. -/
theorem lt_length_of_same (hadded : Apart added) (hapart : ∀ a ∈ own, ∀ b ∈ added, ¬ a.same b)
    {i j : Nat} (hi : i < (own ++ added).length) (hj : j < (own ++ added).length) (hlt : i < j)
    (hsame : (own ++ added)[i].same (own ++ added)[j]) : j < own.length := by
  by_contra hlater
  have hlater : own.length ≤ j := Nat.le_of_not_lt hlater
  rw [List.getElem_append_right hlater] at hsame
  by_cases hfirst : i < own.length
  · rw [List.getElem_append_left hfirst] at hsame
    exact hapart _ (List.getElem_mem hfirst) _ (List.getElem_mem _) hsame
  · have hfirst : own.length ≤ i := Nat.le_of_not_lt hfirst
    rw [List.getElem_append_right hfirst] at hsame
    exact List.pairwise_iff_getElem.mp hadded _ _ _ _ (by omega) hsame

end

/-! ## What is asked -/

/-- What the queries of definitions ask. -/
def questions (definitions : List Json) : List Json :=
  definitions.filterMap (·.member? "query")

theorem questions_append (before after : List Json) :
    questions (before ++ after) = questions before ++ questions after :=
  List.filterMap_append

/-- Naming changes nothing that is asked. -/
theorem questions_nameFrom (position : Nat) (definitions : List Json) :
    questions (nameFrom position definitions) = questions definitions := by
  induction definitions generalizing position with
  | nil => rfl
  | cons definition definitions ih =>
    have hquery := member?_withName (show "query" ≠ "name" by decide) position definition
    have hrest := ih (position + 1)
    unfold questions at hrest ⊢
    rw [nameFrom, List.filterMap_cons, List.filterMap_cons, hquery, hrest]

theorem member?_query_of_ofJson {options : CompileOptions} {raw : Json} {query : Query}
    (h : Query.ofJson options raw = .ok query) :
    raw.member? "query" = some query.definition.query := by
  obtain ⟨definition, hdefinition, h⟩ := bind_eq_ok.mp h
  obtain ⟨members, rfl, hdescribes⟩ := Definition.ofJson_eq_ok_iff_describes.mp hdefinition
  rw [Query.definition_of_ofDefinition h]
  exact hdescribes.query.1

/-- Compiled queries ask what their definitions do, in the same order. -/
theorem Pipelines.questions_eq {options : CompileOptions} {definitions : List Json}
    {queries : List Query} (h : Pipelines options definitions queries) :
    queries.map (·.definition.query) = questions definitions := by
  induction h with
  | nil => rfl
  | @cons raw query definitions queries hquery _ ih =>
    unfold questions at ih ⊢
    rw [List.map_cons, List.filterMap_cons, member?_query_of_ofJson hquery, ih]

/-! ## Cycles -/

namespace Executor

/-- An executor after some cycles, each with what its queries meet and its tags. -/
def afterCycles (executor : Executor) : List ((Nat → Moment) × List String) → Executor
  | [] => executor
  | cycle :: cycles => (executor.execute cycle.1 cycle.2).1.afterCycles cycles

theorem queries_afterCycles (executor : Executor)
    (cycles : List ((Nat → Moment) × List String)) :
    (executor.afterCycles cycles).queries = executor.queries := by
  induction cycles generalizing executor with
  | nil => rfl
  | cons cycle cycles ih => exact ih _

/-- Every query has one turn. -/
theorem map_query_turnsFrom (moments : Nat → Moment) (position : Nat) (queries : List Query)
    (runs : LastRuns) : (turnsFrom moments position queries runs).1.map (·.query) = queries := by
  induction queries generalizing position runs with
  | nil => rfl
  | cons query queries ih => exact congrArg (query :: ·) (ih _ _)

/-- In one cycle no query is handed to the runner twice, and none but those that were compiled. -/
theorem calls_sublist (executor : Executor) (moments : Nat → Moment) (extraTags : List String) :
    (executor.execute moments extraTags).2.calls.Sublist
      (executor.queries.map (·.definition.query)) := by
  have hturns : executor.queries = (executor.turns moments).map (·.query) :=
    (map_query_turnsFrom moments 0 executor.queries executor.lastRuns).symm
  rw [calls_execute, hturns, List.map_map]
  exact List.filter_sublist.map _

section
variable {options : Options} {definitions : List Json} {activity : Activity}

/-- A new executor that could be compiled, with the last runs of its queries. -/
theorem compile_new (h : (Executor.new options definitions).compile.1 = .ok activity) :
    ∃ queries, (Executor.new options definitions).compile.2
        = (Executor.new options definitions).withQueries queries ∧
      Pipelines options.compileOptions definitions queries ∧
      (queries.map Query.name).Nodup := by
  rcases (Executor.new options definitions).compile_cases with ⟨error, hcompile⟩ |
    ⟨queries, hcompile, hpipelines, hnames⟩
  · rw [hcompile] at h
    cases h
  · exact ⟨queries, by rw [hcompile], hpipelines, hnames⟩

/-- Every later cycle asks some of what the definitions ask, each at most once. -/
theorem calls_afterCycles_sublist
    (h : (Executor.new options definitions).compile.1 = .ok activity)
    (cycles : List ((Nat → Moment) × List String)) (moments : Nat → Moment)
    (extraTags : List String) :
    (((Executor.new options definitions).compile.2.afterCycles cycles).execute
      moments extraTags).2.calls.Sublist (questions definitions) := by
  obtain ⟨queries, hcompile, hpipelines, -⟩ := compile_new h
  have hsublist := calls_sublist
    ((Executor.new options definitions).compile.2.afterCycles cycles) moments extraTags
  rw [queries_afterCycles, hcompile] at hsublist
  rw [hcompile, ← hpipelines.questions_eq]
  exact hsublist

/-- In a first cycle no query has run before, and all of them are due. -/
theorem calls_first_cycle (h : (Executor.new options definitions).compile.1 = .ok activity)
    (moments : Nat → Moment) (extraTags : List String) :
    ((Executor.new options definitions).compile.2.execute moments extraTags).2.calls
      = questions definitions := by
  obtain ⟨queries, hcompile, hpipelines, hnames⟩ := compile_new h
  let executor := (Executor.new options definitions).withQueries queries
  have hconsistent : (Life.mk executor definitions).Consistent :=
    ⟨hpipelines, hnames, by simp [executor, withQueries, LastRuns.identities]⟩
  -- nothing has a last run yet, so no interval holds a query back
  have hdue (query : Query) (moment : Moment) :
      (turnAt executor.lastRuns moment query).runs = true := by
    have hlast : executor.lastRuns.last? query.identity = none := by
      rw [last?_withQueries]
      exact ite_self _
    show isDue executor.lastRuns query moment.now = true
    rw [isDue, hlast]
    cases query.definition.interval <;> rfl
  have hall : (executor.turns moments).filter (·.runs) = executor.turns moments := by
    refine List.filter_eq_self.mpr fun turn hturn => ?_
    rw [hconsistent.turns_eq] at hturn
    obtain ⟨n, hn, rfl⟩ := List.mem_mapIdx.mp hturn
    exact hdue _ _
  have hqueries : (executor.turns moments).map (·.query) = queries :=
    map_query_turnsFrom moments 0 queries executor.lastRuns
  rw [hcompile, calls_execute, hall, ← hpipelines.questions_eq, ← hqueries, List.map_map]
  rfl

end

end Executor

/-! ## Managers -/

/-- The manager of an instance that extends its own queries by the shared ones. -/
def Manager.extending (check own shared : List Json) (tags : List String) (options : Options) :
    Manager :=
  .new check ⟨shared⟩ ⟨own, .extend, tags⟩ options

/-- Definitions that are there twice among the merged ones are both the instance's own, so there
are none unless the instance has some. A manager that could be compiled asks in its first cycle
what the definitions of the check and the merged ones ask, once for each of them, and in a later
one some of it, each at most once. -/
theorem mergeCustomQueries_repeats (own shared : List Json) :
    (∀ (i j : Nat) (hi : i < (mergeCustomQueries own shared .extend).length)
      (hj : j < (mergeCustomQueries own shared .extend).length), i ≠ j →
      (mergeCustomQueries own shared .extend)[i].same (mergeCustomQueries own shared .extend)[j] →
      i < own.length ∧ j < own.length) ∧
    (Apart (mergeCustomQueries own shared .extend) ↔ Apart own) ∧
    ∀ check tags options activity,
      (Manager.extending check own shared tags options).executor.compile.1 = .ok activity →
      (∀ moments extraTags,
        ((Manager.extending check own shared tags options).executor.compile.2.execute
          moments extraTags).2.calls
          = questions (check ++ mergeCustomQueries own shared .extend)) ∧
      ∀ cycles moments extraTags,
        (((Manager.extending check own shared tags options).executor.compile.2.afterCycles
          cycles).execute moments extraTags).2.calls.Sublist
          (questions (check ++ mergeCustomQueries own shared .extend)) := by
  obtain ⟨added, hmerged, hadded, hapart⟩ :=
    extendWith_eq_append (own.filterMap definitionName?) own shared
  have hmerged : mergeCustomQueries own shared .extend = own ++ added := hmerged
  refine ⟨?_, ?_, ?_⟩
  · simp only [hmerged]
    intro i j hi hj hne hsame
    -- it does not matter which of the two stands first
    rcases Nat.lt_or_gt_of_ne hne with hlt | hlt
    · have hsecond := lt_length_of_same hadded hapart hi hj hlt hsame
      exact ⟨Nat.lt_trans hlt hsecond, hsecond⟩
    · rw [Json.same_comm] at hsame
      have hfirst := lt_length_of_same hadded hapart hj hi hlt hsame
      exact ⟨hfirst, Nat.lt_trans hlt hfirst⟩
  · rw [hmerged]
    exact apart_append_iff hadded hapart
  · intro check tags options activity h
    have hasked : questions (check ++ nameCustomQueries (mergeCustomQueries own shared .extend))
        = questions (check ++ mergeCustomQueries own shared .extend) := by
      rw [questions_append, questions_append, nameCustomQueries, questions_nameFrom]
    rw [← hasked]
    exact ⟨Executor.calls_first_cycle h, Executor.calls_afterCycles_sublist h⟩

/-- A query that is shared twice, and that the instance has too, is merged and run once. -/
theorem mergeCustomQueries_repeats_shared :
    Apart (mergeCustomQueries [anonymousQuery "foo"]
      [anonymousQuery "foo", anonymousQuery "foo"] .extend) ∧
    ∀ moments extraTags,
      ((Manager.extending [] [anonymousQuery "foo"] [anonymousQuery "foo", anonymousQuery "foo"]
        [] .default).executor.compile.2.execute moments extraTags).2.calls = [.string "foo"] := by
  obtain ⟨-, hapart, hcycles⟩ := mergeCustomQueries_repeats [anonymousQuery "foo"]
    [anonymousQuery "foo", anonymousQuery "foo"]
  have hcompile : (Manager.extending [] [anonymousQuery "foo"]
      [anonymousQuery "foo", anonymousQuery "foo"] [] .default).executor.compile.1
      = .ok (.log (.compiled 1)) := rfl
  exact ⟨hapart.mpr (List.pairwise_singleton _ _), (hcycles [] [] .default _ hcompile).1⟩

/-- A query that an instance has twice is merged twice, named twice, and run twice. -/
theorem mergeCustomQueries_repeats_own :
    ¬ Apart (mergeCustomQueries [anonymousQuery "foo", anonymousQuery "foo"] [] .extend) ∧
    ∀ moments extraTags,
      ((Manager.extending [] [anonymousQuery "foo", anonymousQuery "foo"] []
        [] .default).executor.compile.2.execute moments extraTags).2.calls
        = [.string "foo", .string "foo"] := by
  have hsame : (anonymousQuery "foo").same (anonymousQuery "foo") := rfl
  have hcompile : (Manager.extending [] [anonymousQuery "foo", anonymousQuery "foo"] []
      [] .default).executor.compile.1 = .ok (.log (.compiled 2)) := rfl
  constructor
  · intro hapart
    exact (List.pairwise_cons.mp hapart).1 _ List.mem_cons_self hsame
  · exact Executor.calls_first_cycle hcompile

end RowSignals
