import RowSignals.Proofs.CustomQueries.Duplicates
import RowSignals.Proofs.Json.Members

/-!
# Names of custom queries

A custom query without a name is named by its position. The names that are made differ from each
other, but nothing keeps a name that was configured from being one of them.

* `positionalName_injective`: different positions have different names.
* `member?_withName`, `withName_withName`: naming changes nothing but the name, and only once.
* `nameCustomQueries_names`: the names of custom queries, and when they are distinct.
-/

namespace RowSignals

/-! ## One definition -/

theorem positionalName_injective : Function.Injective positionalName := by
  intro m n h
  exact Nat.repr_injective ((String.append_right_inj "custom query #").mp h)

/-- A mapping whose name is a text, null, or not there. -/
def MayHaveName (definition : Json) : Prop :=
  ∃ members : Json.Members, definition = .object members ∧
    (members.Absent "name" ∨ ∃ name, members.get? "name" = some (.string name))

theorem definitionName?_object (members : Json.Members) :
    definitionName? (.object members) = (members.get? "name").bind Json.string? :=
  rfl

/-- A definition with a name keeps it, one without is named by its position. -/
theorem withName_cases {definition : Json} (h : MayHaveName definition) (position : Nat) :
    (∃ name, definitionName? definition = some name ∧
      withName position definition = definition) ∨
    (definitionName? definition = none ∧
      definitionName? (withName position definition) = some (positionalName position)) := by
  obtain ⟨members, rfl, habsent | ⟨name, hname⟩⟩ := h
  · have hpresent := Json.Members.present?_eq_none_iff.mpr habsent
    refine .inr ⟨?_, ?_⟩
    · rw [definitionName?_object]
      rcases habsent with hnone | hnull
      · rw [hnone]
        rfl
      · rw [hnull]
        rfl
    · rw [withName, hpresent]
      show definitionName? (.object (Json.Members.insert "name" _ members)) = _
      rw [definitionName?_object, Json.Members.get?_insert, if_pos rfl]
      rfl
  · have hpresent := Json.Members.present?_eq_some_iff.mpr ⟨hname, by simp⟩
    refine .inl ⟨name, ?_, ?_⟩
    · rw [definitionName?_object, hname]
      rfl
    · rw [withName, hpresent]
      rfl

/-- A definition keeps its name, and gets that of its position if it has none. -/
theorem definitionName?_withName {definition : Json} (h : MayHaveName definition)
    (position : Nat) : definitionName? (withName position definition)
      = some ((definitionName? definition).getD (positionalName position)) := by
  rcases withName_cases h position with ⟨name, hname, hsame⟩ | ⟨hnone, hname⟩
  · rw [hsame, hname]
    rfl
  · rw [hname, hnone]
    rfl

/-- What a definition says besides its name stays as it was. -/
theorem member?_withName {key : String} (hkey : key ≠ "name") (position : Nat)
    (definition : Json) : (withName position definition).member? key = definition.member? key := by
  unfold withName
  split
  · split
    · rfl
    · rename_i members _
      show (Json.Members.insert "name" _ members).get? key = Json.Members.get? members key
      rw [Json.Members.get?_insert, if_neg hkey]
  · rfl

/-- What has a name is not named again. -/
theorem withName_withName (later position : Nat) (definition : Json) :
    withName later (withName position definition) = withName position definition := by
  cases definition with
  | object members =>
    by_cases hname : (Json.Members.present? members "name").isSome = true
    · have hsame (n : Nat) : withName n (.object members) = .object members := by
        rw [withName, if_pos hname]
      rw [hsame, hsame]
    · rw [withName, if_neg hname, withName, Json.Members.present?_eq_some_iff.mpr
        ⟨(Json.Members.get?_insert _ _ _ _).trans (if_pos rfl), by simp⟩]
      rfl
  | _ => rfl

/-! ## Several definitions -/

theorem nameFrom_eq_mapIdx (position : Nat) (definitions : List Json) :
    nameFrom position definitions
      = definitions.mapIdx fun i definition => withName (position + i) definition := by
  induction definitions generalizing position with
  | nil => rfl
  | cons definition definitions ih =>
    rw [nameFrom, ih, List.mapIdx_cons]
    simp only [Nat.add_zero, Nat.add_assoc, Nat.add_comm 1]

theorem nameFrom_nameFrom (position : Nat) (definitions : List Json) :
    nameFrom position (nameFrom position definitions) = nameFrom position definitions := by
  induction definitions generalizing position with
  | nil => rfl
  | cons definition definitions ih => rw [nameFrom, nameFrom, withName_withName, ih]

/-- No name that was configured is the one that a definition without a name gets. -/
def PositionsFree (definitions : List Json) : Prop :=
  ∀ (i : Nat) (hi : i < definitions.length), definitionName? definitions[i] = none →
    positionalName (i + 1) ∉ definitionNames definitions

section
variable {definitions : List Json}

/-- The names after naming: those that were configured, and those of the positions. -/
theorem definitionNames_nameFrom (hform : ∀ d ∈ definitions, MayHaveName d) (position : Nat) :
    definitionNames (nameFrom position definitions) = definitions.mapIdx fun i definition =>
      (definitionName? definition).getD (positionalName (position + i)) := by
  induction definitions generalizing position with
  | nil => rfl
  | cons definition definitions ih =>
    obtain ⟨hdefinition, hform⟩ := List.forall_mem_cons.mp hform
    have hrest := ih hform (position + 1)
    unfold definitionNames at hrest ⊢
    rw [nameFrom, List.filterMap_cons, definitionName?_withName hdefinition, List.mapIdx_cons,
      hrest]
    simp only [Nat.add_zero, Nat.add_assoc, Nat.add_comm 1]

/-- The names are distinct unless a configured one is made for a position too. -/
theorem names_nodup_iff_positionsFree (hform : ∀ d ∈ definitions, MayHaveName d)
    (hdistinct : (definitionNames definitions).Nodup) :
    (definitionNames (nameCustomQueries definitions)).Nodup ↔ PositionsFree definitions := by
  have hpairs := List.pairwise_iff_getElem.mp (List.pairwise_filterMap.mp hdistinct)
  rw [nameCustomQueries, definitionNames_nameFrom hform, List.Nodup, List.pairwise_iff_getElem]
  simp only [List.length_mapIdx, List.getElem_mapIdx, Nat.add_comm 1]
  constructor
  · intro h i hi hnone hmem
    obtain ⟨definition, hdefinition, hname⟩ := List.mem_filterMap.mp hmem
    obtain ⟨j, hj, rfl⟩ := List.getElem_of_mem hdefinition
    rcases Nat.lt_trichotomy i j with hlt | rfl | hlt
    · refine h i j hi hj hlt ?_
      rw [hnone, hname]
      rfl
    · cases hnone.symm.trans hname
    · refine h j i hj hi hlt ?_
      rw [hnone, hname]
      rfl
  · intro hfree i j hi hj hlt heq
    have hmem (k : Nat) (hk : k < definitions.length) (name : String)
        (hname : definitionName? definitions[k] = some name) : name ∈ definitionNames definitions :=
      List.mem_filterMap.mpr ⟨_, List.getElem_mem hk, hname⟩
    -- two names that were made differ by their positions, and one that was made is not configured
    cases hfirst : definitionName? definitions[i] with
    | none =>
      cases hsecond : definitionName? definitions[j] with
      | none =>
        have hsame : positionalName (i + 1) = positionalName (j + 1) := by
          simpa [hfirst, hsecond] using heq
        have hsucc := positionalName_injective hsame
        omega
      | some name =>
        have hsame : positionalName (i + 1) = name := by simpa [hfirst, hsecond] using heq
        exact hfree i hi hfirst (hsame ▸ hmem j hj name hsecond)
    | some name =>
      cases hsecond : definitionName? definitions[j] with
      | none =>
        have hsame : name = positionalName (j + 1) := by simpa [hfirst, hsecond] using heq
        exact hfree j hj hsecond (hsame ▸ hmem i hi name hfirst)
      | some other =>
        have hsame : name = other := by simpa [hfirst, hsecond] using heq
        exact hpairs i j hi hj hlt name hfirst other hsecond hsame

/-- Definitions behind those of a check are refused for a repeated name only if the check has
that name, when their own names are distinct. -/
theorem mem_names_of_duplicateQuery {options : Options} {check : List Json} {name : String}
    (hdistinct : (definitionNames definitions).Nodup)
    (h : (Executor.new options (check ++ definitions)).compile.1 = .error (.duplicateQuery name)) :
    name ∈ definitionNames check := by
  have hcompile : Executor.compileFrom options.compileOptions [] (check ++ definitions)
      = .error (.duplicateQuery name) := by
    unfold Executor.compile at h
    split at h
    · rename_i error herror
      cases h
      exact herror
    · cases h
  have htwice := Executor.count_of_duplicateQuery hcompile
  have honce := List.nodup_iff_count_le_one.mp hdistinct name
  rw [List.nil_append, definitionNames, List.filterMap_append, List.count_append] at htwice
  refine List.count_pos_iff.mp ?_
  unfold definitionNames at honce ⊢
  omega

/-- What naming by position does to definitions. -/
structure NamedByPosition (definitions named : List Json) : Prop where
  length : named.length = definitions.length
  /-- A definition with a name stays as it is. -/
  kept : ∀ (i : Nat) (hi : i < definitions.length) (hnamed : i < named.length),
    definitionName? definitions[i] ≠ none → named[i] = definitions[i]
  /-- Every definition has a name, and one that had none has that of its position. -/
  name : ∀ (i : Nat) (hi : i < definitions.length) (hnamed : i < named.length),
    definitionName? named[i]
      = some ((definitionName? definitions[i]).getD (positionalName (i + 1)))
  /-- What a definition says besides its name stays as it was. -/
  others : ∀ (i : Nat) (hi : i < definitions.length) (hnamed : i < named.length) (key : String),
    key ≠ "name" → named[i].member? key = definitions[i].member? key

/-- What naming promises holds for all definitions that may have names. -/
theorem namedByPosition (hform : ∀ d ∈ definitions, MayHaveName d) :
    NamedByPosition definitions (nameCustomQueries definitions) := by
  have hget (i : Nat) (hi : i < definitions.length)
      (hnamed : i < (nameCustomQueries definitions).length) :
      (nameCustomQueries definitions)[i] = withName (i + 1) definitions[i] := by
    simp only [nameCustomQueries, nameFrom_eq_mapIdx, List.getElem_mapIdx, Nat.add_comm 1]
  refine ⟨?_, ?_, ?_, ?_⟩
  · rw [nameCustomQueries, nameFrom_eq_mapIdx, List.length_mapIdx]
  · intro i hi hnamed hname
    rw [hget i hi hnamed]
    rcases withName_cases (hform _ (List.getElem_mem hi)) (i + 1) with ⟨_, -, hsame⟩ | ⟨hnone, -⟩
    · exact hsame
    · exact absurd hnone hname
  · intro i hi hnamed
    rw [hget i hi hnamed]
    exact definitionName?_withName (hform _ (List.getElem_mem hi)) (i + 1)
  · intro i hi hnamed key hkey
    rw [hget i hi hnamed]
    exact member?_withName hkey (i + 1) definitions[i]

/-- Custom queries are named by their positions, and nothing else changes. Their names are
distinct unless a configured name is that of the position of a query without one, and then none
of them is refused for a name that is there twice, unless the check has that name. -/
theorem nameCustomQueries_names (hform : ∀ d ∈ definitions, MayHaveName d)
    (hdistinct : (definitionNames definitions).Nodup) :
    NamedByPosition definitions (nameCustomQueries definitions) ∧
    ((definitionNames (nameCustomQueries definitions)).Nodup ↔ PositionsFree definitions) ∧
    (PositionsFree definitions → ∀ options check name,
      (Executor.new options (check ++ nameCustomQueries definitions)).compile.1
        = .error (.duplicateQuery name) → name ∈ definitionNames check) ∧
    nameCustomQueries (nameCustomQueries definitions) = nameCustomQueries definitions := by
  have hnodup := names_nodup_iff_positionsFree hform hdistinct
  refine ⟨namedByPosition hform, hnodup, ?_, nameFrom_nameFrom 1 definitions⟩
  intro hfree options check name h
  exact mem_names_of_duplicateQuery (hnodup.mpr hfree) h

end

/-- A query without a name. -/
def anonymousQuery (query : String) : Json :=
  .object [("columns", .array []), ("query", .string query)]

theorem mayHaveName_namedQuery (name query : String) : MayHaveName (namedQuery name query) :=
  ⟨_, rfl, .inr ⟨name, rfl⟩⟩

theorem mayHaveName_unnamedQuery (query : String) : MayHaveName (unnamedQuery query) :=
  ⟨_, rfl, .inl (.inr rfl)⟩

theorem mayHaveName_anonymousQuery (query : String) : MayHaveName (anonymousQuery query) :=
  ⟨_, rfl, .inl (.inl rfl)⟩

/-- Queries whose name is there, null, and missing; the first one is made for a position, but not
for that of a query without a name. -/
def mixedQueries : List Json :=
  [namedQuery "custom query #1" "a", unnamedQuery "b", anonymousQuery "c"]

/-- One name that was configured, one that is null and one that is missing. -/
theorem nameCustomQueries_names_mixed : PositionsFree mixedQueries ∧
    definitionNames (nameCustomQueries mixedQueries)
      = ["custom query #1", "custom query #2", "custom query #3"] := by
  have hform : ∀ d ∈ mixedQueries, MayHaveName d := by
    simp [mixedQueries, mayHaveName_namedQuery, mayHaveName_unnamedQuery,
      mayHaveName_anonymousQuery]
  obtain ⟨-, hnodup, -⟩ := nameCustomQueries_names hform (by decide)
  exact ⟨hnodup.mp (by decide), rfl⟩

/-- Two queries, of which the first has the name that the second one gets. -/
def clashingQueries : List Json :=
  [.object [("columns", .array []), ("name", .string "custom query #2"), ("query", .string "a")],
    anonymousQuery "b"]

/-- Both of them get the same name, and compiling refuses it. -/
theorem nameCustomQueries_clash : (∀ d ∈ clashingQueries, MayHaveName d) ∧
    (definitionNames clashingQueries).Nodup ∧
    ¬ (definitionNames (nameCustomQueries clashingQueries)).Nodup ∧
    (Executor.new .default (nameCustomQueries clashingQueries)).compile.1
      = .error (.duplicateQuery "custom query #2") := by
  refine ⟨?_, by decide, by decide, rfl⟩
  have hnamed : MayHaveName (.object [("columns", .array []),
      ("name", .string "custom query #2"), ("query", .string "a")]) :=
    ⟨_, rfl, .inr ⟨_, rfl⟩⟩
  simp [clashingQueries, hnamed, mayHaveName_anonymousQuery]

end RowSignals
