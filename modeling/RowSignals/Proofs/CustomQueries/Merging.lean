import Mathlib.Data.List.Nodup
import RowSignals.CustomQueries
import RowSignals.Proofs.Json.Equality

/-!
# Merged custom queries

Under the policy that extends, an instance keeps its own queries as they are, and behind them
come the shared queries that are not left out. A shared query is left out if it has the name of
one of the instance's own, or if the same query is there already.

* `extendWith_kept`: which of the shared queries stay behind queries that are there.
* `mergeCustomQueries_extend`: the merged queries of an instance, and their names.
-/

namespace RowSignals

/-! ## The same definition -/

/-- The same definitions have the same name. -/
theorem definitionName?_of_same {a b : Json} (h : a.same b) :
    definitionName? a = definitionName? b := by
  have hstring {x y : Json} (h : x.same y) : x.string? = y.string? := by
    cases x <;> cases y <;> simp_all [Json.same, Json.string?]
  cases a with
  | object as =>
    cases b with
    | object bs =>
      have hmembers : Json.sameMembers as bs := by simpa only [Json.same] using h
      have hrel := Json.Members.get?_of_sameMembers hmembers "name"
      show (Json.Members.get? as "name").bind Json.string?
        = (Json.Members.get? bs "name").bind Json.string?
      generalize Json.Members.get? as "name" = x at hrel ⊢
      generalize Json.Members.get? bs "name" = y at hrel ⊢
      cases hrel with
      | none => rfl
      | some hsame => exact hstring hsame
    | _ => simp [Json.same] at h
  | _ => cases b <;> simp_all [Json.same, definitionName?, Json.member?, Json.members?]

/-! ## The shared queries that stay -/

/-- Why a shared query is left out: it has one of the overridden names, or the same query is
among those before, or among the shared ones that stayed before it. -/
def LeftOut (overridden : List String) (before shared : List Json)
    (kept : List (Fin shared.length)) (i : Fin shared.length) : Prop :=
  (∃ name ∈ overridden, definitionName? shared[i] = some name) ∨
    (∃ d ∈ before, d.same shared[i]) ∨ ∃ j ∈ kept, j < i ∧ shared[j].same shared[i]

theorem isSuperseded_iff {overridden : List String} {merged : List Json} {shared : Json} :
    isSuperseded overridden merged shared ↔
      (∃ name ∈ overridden, definitionName? shared = some name) ∨
        ∃ d ∈ merged, d.same shared := by
  unfold isSuperseded
  rw [Bool.or_eq_true, List.any_eq_true, Option.any_eq_true]
  simp only [List.contains_iff_mem, and_comm]

/-- Queries stay in their order behind those that are there, without those that are left out. -/
theorem extendWith_kept (overridden : List String) (merged shared : List Json) :
    ∃ kept : List (Fin shared.length), kept.Pairwise (· < ·) ∧
      extendWith overridden merged shared = merged ++ kept.map (shared[·]) ∧
      ∀ i, i ∉ kept ↔ LeftOut overridden merged shared kept i := by
  induction shared generalizing merged with
  | nil => exact ⟨[], .nil, by simp [extendWith], fun i => i.elim0⟩
  | cons first shared ih =>
    by_cases hfirst : isSuperseded overridden merged first
    · obtain ⟨kept, hsorted, hmerged, hkept⟩ := ih merged
      refine ⟨kept.map Fin.succ, ?_, ?_, ?_⟩
      · exact List.pairwise_map.mpr (hsorted.imp Fin.succ_lt_succ_iff.mpr)
      · rw [extendWith, if_pos hfirst, hmerged, List.map_map]
        rfl
      · intro i
        -- the first query is left out, and the positions of the others are one further
        cases i using Fin.cases with
        | zero =>
          refine iff_of_true (by simp [Fin.succ_ne_zero]) ?_
          exact (isSuperseded_iff.mp hfirst).imp_right .inl
        | succ i =>
          simpa [LeftOut] using hkept i
    · obtain ⟨kept, hsorted, hmerged, hkept⟩ := ih (merged ++ [first])
      refine ⟨0 :: kept.map Fin.succ, ?_, ?_, ?_⟩
      · refine List.pairwise_cons.mpr ⟨by simp, ?_⟩
        exact List.pairwise_map.mpr (hsorted.imp Fin.succ_lt_succ_iff.mpr)
      · rw [extendWith, if_neg hfirst, hmerged, List.map_cons, List.map_map, List.append_assoc]
        rfl
      · intro i
        -- the first query stays, and is among those before the others
        cases i using Fin.cases with
        | zero =>
          refine iff_of_false (by simp) ?_
          rintro (hname | hsame | ⟨j, -, hlt, -⟩)
          · exact hfirst (isSuperseded_iff.mpr (.inl hname))
          · exact hfirst (isSuperseded_iff.mpr (.inr hsame))
          · exact absurd hlt (Fin.not_lt_zero j)
        | succ i =>
          simpa [LeftOut, or_assoc, Fin.succ_ne_zero] using hkept i

/-! ## Names -/

/-- The names of definitions that have one. -/
def definitionNames (definitions : List Json) : List String :=
  definitions.filterMap definitionName?

section
variable {own shared : List Json} {kept : List (Fin shared.length)}

/-- A shared query that stays has none of the overridden names. -/
theorem name_ne_of_kept {overridden : List String}
    (hkept : ∀ i, i ∉ kept ↔ LeftOut overridden own shared kept i) {definition : Json}
    (hmem : definition ∈ kept.map (shared[·])) {name : String} (hname : name ∈ overridden) :
    definitionName? definition ≠ some name := by
  obtain ⟨i, hi, rfl⟩ := List.mem_map.mp hmem
  intro heq
  exact (hkept i).mpr (.inl ⟨name, hname, heq⟩) hi

/-- Names that repeat neither among the own queries nor among the shared ones do not repeat
after merging. -/
theorem names_nodup_of_kept (hsorted : kept.Pairwise (· < ·))
    (hkept : ∀ i, i ∉ kept ↔ LeftOut (definitionNames own) own shared kept i)
    (hown : (definitionNames own).Nodup) (hshared : (definitionNames shared).Nodup) :
    (definitionNames (own ++ kept.map (shared[·]))).Nodup := by
  unfold definitionNames at hkept hown hshared ⊢
  rw [List.filterMap_append]
  refine hown.append (hshared.sublist ((List.map_getElem_sublist hsorted).filterMap _)) ?_
  intro name hmem hlater
  obtain ⟨definition, hdefinition, hname⟩ := List.mem_filterMap.mp hlater
  exact name_ne_of_kept hkept hdefinition hmem hname

/-- A shared query that is left out has a name that is there already, if it has one. -/
theorem mem_names_of_kept (hkept : ∀ i, i ∉ kept ↔ LeftOut (definitionNames own) own shared kept i)
    (name : String) : name ∈ definitionNames (own ++ kept.map (shared[·])) ↔
      name ∈ definitionNames own ∨ name ∈ definitionNames shared := by
  unfold definitionNames at hkept ⊢
  rw [List.filterMap_append, List.mem_append]
  constructor
  · refine Or.imp_right fun hmem => ?_
    obtain ⟨definition, hdefinition, hname⟩ := List.mem_filterMap.mp hmem
    obtain ⟨i, -, rfl⟩ := List.mem_map.mp hdefinition
    exact List.mem_filterMap.mpr ⟨_, List.getElem_mem _, hname⟩
  · rintro (hown | hshared)
    · exact .inl hown
    · obtain ⟨definition, hdefinition, hname⟩ := List.mem_filterMap.mp hshared
      obtain ⟨i, hi, rfl⟩ := List.getElem_of_mem hdefinition
      by_cases hmem : (⟨i, hi⟩ : Fin shared.length) ∈ kept
      · exact .inr (List.mem_filterMap.mpr ⟨_, List.mem_map_of_mem hmem, hname⟩)
      -- what is left out for the same definition has its name
      · rcases (hkept ⟨i, hi⟩).mp hmem with ⟨other, hother, heq⟩ | ⟨d, hd, hsame⟩ |
          ⟨j, hj, -, hsame⟩
        · cases heq.symm.trans hname
          exact .inl hother
        · exact .inl (List.mem_filterMap.mpr ⟨d, hd, (definitionName?_of_same hsame).trans hname⟩)
        · exact .inr (List.mem_filterMap.mpr
            ⟨_, List.mem_map_of_mem hj, (definitionName?_of_same hsame).trans hname⟩)

/-- The definitions of an instance's name are its own. -/
theorem filter_name_of_kept
    (hkept : ∀ i, i ∉ kept ↔ LeftOut (definitionNames own) own shared kept i) {name : String}
    (hname : name ∈ definitionNames own) :
    (own ++ kept.map (shared[·])).filter (fun d => definitionName? d = some name)
      = own.filter fun d => definitionName? d = some name := by
  have hnone : (kept.map (shared[·])).filter (fun d => definitionName? d = some name) = [] := by
    refine List.filter_eq_nil_iff.mpr fun definition hdefinition => ?_
    simpa using name_ne_of_kept hkept hdefinition hname
  rw [List.filter_append, hnone, List.append_nil]

end

/-- Merged queries are all the instance's own, and behind them in their order the shared ones,
except those that have the name of one of the instance's own or are there already. No name is
repeated that was not repeated on one side, no name is lost, and the definitions of a name that
the instance has are its own. -/
theorem mergeCustomQueries_extend (own shared : List Json) :
    ∃ kept : List (Fin shared.length), kept.Pairwise (· < ·) ∧
      mergeCustomQueries own shared .extend = own ++ kept.map (shared[·]) ∧
      (∀ i, i ∉ kept ↔ LeftOut (definitionNames own) own shared kept i) ∧
      ((definitionNames own).Nodup → (definitionNames shared).Nodup →
        (definitionNames (mergeCustomQueries own shared .extend)).Nodup) ∧
      (∀ name, name ∈ definitionNames (mergeCustomQueries own shared .extend) ↔
        name ∈ definitionNames own ∨ name ∈ definitionNames shared) ∧
      ∀ name ∈ definitionNames own,
        (mergeCustomQueries own shared .extend).filter (fun d => definitionName? d = some name)
          = own.filter fun d => definitionName? d = some name := by
  obtain ⟨kept, hsorted, hmerged, hkept⟩ := extendWith_kept (definitionNames own) own shared
  have hmerged : mergeCustomQueries own shared .extend = own ++ kept.map (shared[·]) := hmerged
  refine ⟨kept, hsorted, hmerged, hkept, ?_, ?_, ?_⟩
  · rw [hmerged]
    exact names_nodup_of_kept hsorted hkept
  · rw [hmerged]
    exact mem_names_of_kept hkept
  · rw [hmerged]
    intro name hname
    exact filter_name_of_kept hkept hname

/-- A query with a name. -/
def namedQuery (name query : String) : Json :=
  .object [("name", .string name), ("query", .string query)]

/-- A query whose name is null. -/
def unnamedQuery (query : String) : Json :=
  .object [("name", .null), ("query", .string query)]

/-- The queries of an instance that overrides `a`. -/
def overridingQueries : List Json :=
  [namedQuery "a" "own", unnamedQuery "x"]

/-- Shared queries of which one is overridden, one is the instance's too, and one is there twice. -/
def overriddenQueries : List Json :=
  [namedQuery "a" "shared", unnamedQuery "x", unnamedQuery "y", unnamedQuery "y",
    namedQuery "b" "shared"]

/-- An instance that overrides one shared query and has another one itself: only the rest is
added, once. -/
theorem mergeCustomQueries_extend_overridden :
    mergeCustomQueries overridingQueries overriddenQueries .extend
        = overridingQueries ++ [unnamedQuery "y", namedQuery "b" "shared"] ∧
      (definitionNames (mergeCustomQueries overridingQueries overriddenQueries .extend)).Nodup ∧
      "b" ∈ definitionNames (mergeCustomQueries overridingQueries overriddenQueries .extend) := by
  obtain ⟨kept, -, -, -, hnodup, hnames, -⟩ :=
    mergeCustomQueries_extend overridingQueries overriddenQueries
  exact ⟨rfl, hnodup (by decide) (by decide), (hnames "b").mpr (.inr (by decide))⟩

end RowSignals
