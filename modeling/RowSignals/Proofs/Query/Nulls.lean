import RowSignals.Proofs.Definition.Nulls
import RowSignals.Query.Compiled

/-!
# Queries without nulls

A definition without its nulls is compiled to a query that does the same, or refused with the same
error.

* `Query.Outcome`: what a query does, apart from its identity and the parameters that were read.
* `Query.ofDefinition_withoutNulls`: the compilation of a checked definition.
* `Query.ofJson_withoutNullEntries`: that of a raw definition.
-/

namespace RowSignals

/-! ## Transformers and extras -/

/-- A transformer is the same without the null parameters of its column. -/
theorem Transformer.ofParams_columnWithoutNulls (scope : Scope) (kind name : String)
    (params : Params) : ofParams scope kind name (params.columnWithoutNulls (some kind))
      = ofParams scope kind name params := by
  rw [Params.columnWithoutNulls, ofParams_of_find? (Json.Members.present?_withoutNulls _)]
  split
  · rename_i hkind
    cases hkind
    exact dispatchOf_withoutItemNulls scope params
  · rfl

/-- An extra is the same without its null parameters. -/
theorem Extra.ofField_withoutNulls (scope : Scope) (query : String) (field : Field) :
    ofField scope query field.withoutNulls = ofField scope query field := by
  simp only [ofField, Field.withoutNulls,
    ExtraAction.ofParams_of_find? (Json.Members.present?_withoutNulls field.params)]

/-- An expression must be there, whatever the type was inferred from. -/
theorem Extra.ofField_of_null_expression {scope : Scope} {query : String} {field : Field}
    (hkind : field.kind = "expression") (h : field.params.find? "expression" = none) :
    ofField scope query field
      = .error (.params "expression" (.extra field.name query) (.missing "expression")) := by
  have hrequired : field.params.nonEmptyText "expression" = .error (.missing "expression") := by
    simp only [Params.nonEmptyText, Params.requiredText, Params.required, h]
    rfl
  have haction : ExtraAction.ofParams scope "expression" field.name field.params
      = .error (.missing "expression") := by
    show ExtraAction.expressionOf scope field.name field.params = _
    rw [ExtraAction.expressionOf, hrequired]
    rfl
  rw [ofField, hkind, haction]

namespace Query

theorem columnsFrom_withoutNulls (scope : Scope) (query : String) (index : Nat)
    (fields : List (Option Field)) :
    columnsFrom scope query index (fields.map (Option.map Field.columnWithoutNulls))
      = columnsFrom scope query index fields := by
  induction fields generalizing index with
  | nil => rfl
  | cons field fields ih =>
    cases field with
    | none => exact ih (index + 1)
    | some field =>
      rw [List.map_cons, Option.map_some]
      simp only [columnsFrom, Field.columnWithoutNulls, Transformer.ofParams_columnWithoutNulls, ih]

theorem extrasOf_withoutNulls (scope : Scope) (query : String) (fields : List Field) :
    extrasOf scope query (fields.map Field.withoutNulls) = extrasOf scope query fields := by
  induction fields generalizing scope with
  | nil => rfl
  | cons field fields ih =>
    rw [List.map_cons]
    simp only [extrasOf, Extra.ofField_withoutNulls, ih]

theorem exists_of_mem_extrasOf {scope : Scope} {query : String} {fields : List Field}
    {extras : List Extra} (h : extrasOf scope query fields = .ok extras) {field : Field}
    (hfield : field ∈ fields) :
    ∃ (scope : Scope) (extra : Extra), Extra.ofField scope query field = .ok extra := by
  induction fields generalizing scope extras with
  | nil => cases hfield
  | cons first fields ih =>
    obtain ⟨extra, hextra, h⟩ := bind_eq_ok.mp h
    obtain ⟨rest, hrest, -⟩ := bind_eq_ok.mp h
    rcases List.mem_cons.mp hfield with rfl | hfield
    · exact ⟨scope, extra, hextra⟩
    · exact ih hrest hfield

/-! ## Outcomes -/

/-- What a compiled query does, apart from its identity and the parameters that were read. -/
structure Outcome where
  name : String
  asked : Json
  hostname : Option Template
  columns : List Column
  extras : List Extra
  tags : List String
  interval : Option Float
  columnCount : Nat

/-- The outcome of a compilation. -/
def outcome (query : Query) : Outcome :=
  ⟨query.name, query.definition.query, query.hostname, query.columns, query.extras,
    query.definition.tags, query.definition.interval, query.columnCount⟩

/-- A query of another identity, without nulls in the parameters of its definition. -/
def withoutNulls (identity : Identity) (query : Query) : Query :=
  { query with definition := query.definition.withoutNulls, identity }

/-- A query has the same outcome without the null parameters of its definition. -/
theorem outcome_withoutNulls (identity : Identity) (query : Query) :
    (query.withoutNulls identity).outcome = query.outcome := by
  have hcount : (query.withoutNulls identity).columnCount = query.columnCount :=
    List.length_map _
  rw [outcome, hcount]
  rfl

/-- Without null parameters a definition compiles to the query without them, or fails with the
same error. -/
theorem ofDefinition_withoutNulls (options : CompileOptions) (identity other : Identity)
    (definition : Definition) :
    ofDefinition options other definition.withoutNulls
      = (ofDefinition options identity definition).map (withoutNulls other) := by
  have hsources : (definition.withoutNulls.columns.filterMap fun column => column.map (·.name))
      = definition.columns.filterMap fun column => column.map (·.name) := by
    rw [Definition.withoutNulls, List.filterMap_map]
    refine List.filterMap_congr fun column _ => ?_
    cases column <;> rfl
  unfold ofDefinition
  simp only [hsources]
  refine bind_eq_map_bind fun hostname _ => ?_
  have hcolumns (scope : Scope) := columnsFrom_withoutNulls scope definition.name 0
    definition.columns
  have hextras (scope : Scope) := extrasOf_withoutNulls scope definition.name definition.extras
  simp only [Definition.withoutNulls, hcolumns, hextras]
  exact bind_eq_map_bind fun columns _ => bind_eq_map_bind fun extras _ => rfl

/-- The outcome of compiling a definition does not depend on its null parameters. -/
theorem outcome_ofDefinition (options : CompileOptions) (identity other : Identity)
    (definition : Definition) :
    (ofDefinition options other definition.withoutNulls).map outcome
      = (ofDefinition options identity definition).map outcome := by
  rw [ofDefinition_withoutNulls options identity]
  cases ofDefinition options identity definition with
  | error error => rfl
  | ok query => exact congrArg Except.ok (outcome_withoutNulls other query)

section
variable {options : CompileOptions} {raw : Json}

theorem outcome_withoutNullEntries
    (hcolumns : ∀ entry : Json.Members, .object entry ∈ raw.entriesAt "columns" →
      entry = [] ∨ ¬ entry.Absent "name")
    (hextras : ∀ entry : Json.Members, .object entry ∈ raw.entriesAt "extras" →
      entry.get? "expression" = some .null → ¬ entry.Absent "type") :
    (ofJson options raw.withoutNullEntries).map outcome = (ofJson options raw).map outcome := by
  unfold ofJson
  rw [Definition.ofJson_map_withoutNulls hcolumns hextras]
  exact map_bind_congr fun definition _ => outcome_ofDefinition options _ _ definition

/-- A null expression is refused, also where the type of the extra is inferred from it. -/
theorem refused_of_null_expression {entry : Json.Members}
    (hentry : .object entry ∈ raw.entriesAt "extras")
    (hexpression : entry.get? "expression" = some .null) (htype : entry.Absent "type")
    (query : Query) : ofJson options raw ≠ .ok query := by
  intro h
  obtain ⟨definition, hdefinition, h⟩ := bind_eq_ok.mp h
  obtain ⟨hostname, -, h⟩ := bind_eq_ok.mp h
  obtain ⟨columns, -, h⟩ := bind_eq_ok.mp h
  obtain ⟨extras, hextras, -⟩ := bind_eq_ok.mp h
  obtain ⟨members, rfl, hdescribes⟩ := Definition.ofJson_eq_ok_iff_describes.mp hdefinition
  obtain ⟨field, hfield, members, hmembers, hextra⟩ :=
    Definition.exists_mem_of_forall₂ hdescribes.extras hentry
  cases hmembers
  -- the type is inferred from the null, and then there is no expression to compile
  have hkind : field.kind = "expression" := by
    rcases hextra.kind with hkind | ⟨-, -, hkind⟩
    · rcases htype with htype | htype
      · rw [htype] at hkind
        cases hkind
      · rw [htype] at hkind
        cases hkind
    · exact hkind
  have hfind : field.params.find? "expression" = none := by
    rw [hextra.params, ← Definition.paramsOf_eq]
    refine (Json.Members.present?_filter (fun key => key != "name" && key != "type") entry
      "expression").trans ?_
    rw [if_pos (by decide)]
    exact Json.Members.present?_eq_none_iff.mpr (.inr hexpression)
  obtain ⟨scope, extra, hextra⟩ := exists_of_mem_extrasOf hextras hfield
  rw [Extra.ofField_of_null_expression hkind hfind] at hextra
  cases hextra

/-- A null says as much as no entry: without its nulls, a definition is compiled to a query that
does the same, or refused with the same error. Only for an extra that has a null expression and no
type the errors may differ, and then both are refused. -/
theorem ofJson_withoutNullEntries
    (hcolumns : ∀ entry : Json.Members, .object entry ∈ raw.entriesAt "columns" →
      entry = [] ∨ ¬ entry.Absent "name") :
    ((∀ entry : Json.Members, .object entry ∈ raw.entriesAt "extras" →
        entry.get? "expression" = some .null → ¬ entry.Absent "type") →
      (ofJson options raw.withoutNullEntries).map outcome = (ofJson options raw).map outcome)
      ∧ ∀ found, (ofJson options raw.withoutNullEntries).map outcome = .ok found
        ↔ (ofJson options raw).map outcome = .ok found := by
  refine ⟨outcome_withoutNullEntries hcolumns, fun found => ?_⟩
  by_cases hextras : ∀ entry : Json.Members, .object entry ∈ raw.entriesAt "extras" →
      entry.get? "expression" = some .null → ¬ entry.Absent "type"
  · rw [outcome_withoutNullEntries hcolumns hextras]
  · -- both are refused: one misses the expression, the other one the type
    push Not at hextras
    obtain ⟨entry, hentry, hexpression, htype⟩ := hextras
    constructor
    · intro h
      obtain ⟨query, hquery, -⟩ := map_eq_ok.mp h
      obtain ⟨definition, hdefinition, -⟩ := bind_eq_ok.mp hquery
      exact absurd hdefinition
        (Definition.refused_withoutNullEntries hentry hexpression htype definition)
    · intro h
      obtain ⟨query, hquery, -⟩ := map_eq_ok.mp h
      exact absurd hquery (refused_of_null_expression hentry hexpression htype query)

end

/-- A definition with nulls in its mapping, a column, an item of a match and an extra. -/
def sparseDefinition : Json :=
  .object [
    ("columns", .array [.null,
      .object [("boolean", .null), ("name", .string "db"), ("type", .string "tag")],
      .object [("items", .object [("up", .object [("name", .string "state.up"), ("source", .null),
          ("type", .string "gauge")])]),
        ("name", .string "state"), ("source", .string "db"), ("type", .string "match")]]),
    ("extras", .array [.object [("name", .string "share"), ("part", .string "db"), ("raw", .null),
      ("total", .string "db"), ("type", .string "percent")]]),
    ("hostname", .null), ("name", .string "q"), ("query", .string "s")]

theorem ofJson_withoutNullEntries_sparse :
    sparseDefinition.withoutNullEntries = .object [
        ("columns", .array [.null, .object [("name", .string "db"), ("type", .string "tag")],
          .object [("items", .object [("up", .object [("name", .string "state.up"),
              ("type", .string "gauge")])]),
            ("name", .string "state"), ("source", .string "db"), ("type", .string "match")]]),
        ("extras", .array [.object [("name", .string "share"), ("part", .string "db"),
          ("total", .string "db"), ("type", .string "percent")]]),
        ("name", .string "q"), ("query", .string "s")]
      ∧ (ofJson ⟨none, .textOnly⟩ sparseDefinition.withoutNullEntries).map outcome
        = (ofJson ⟨none, .textOnly⟩ sparseDefinition).map outcome
      ∧ ∃ found, (ofJson ⟨none, .textOnly⟩ sparseDefinition).map outcome = .ok found := by
  have hcolumns : ∀ entry : Json.Members, .object entry ∈ sparseDefinition.entriesAt "columns" →
      entry = [] ∨ ¬ entry.Absent "name" := by
    intro entry hentry
    refine .inr ?_
    rcases List.mem_cons.mp hentry with hentry | hentry
    · cases hentry
    rcases List.mem_cons.mp hentry with hentry | hentry
    · cases hentry
      rintro (hname | hname) <;> cases hname
    · cases List.mem_singleton.mp hentry
      rintro (hname | hname) <;> cases hname
  have hextras : ∀ entry : Json.Members, .object entry ∈ sparseDefinition.entriesAt "extras" →
      entry.get? "expression" = some .null → ¬ entry.Absent "type" := by
    intro entry hentry hnull
    cases List.mem_singleton.mp hentry
    cases hnull
  exact ⟨rfl, (ofJson_withoutNullEntries hcolumns).1 hextras, _, rfl⟩

/-- An extra with a null expression and no type. -/
def nullExpressionDefinition : Json :=
  .object [("columns", .array []),
    ("extras", .array [.object [("expression", .null), ("name", .string "x")]]),
    ("name", .string "q"), ("query", .string "s")]

/-- A null expression says something: its parameter is missed, where without it the type is. -/
theorem ofJson_null_expression :
    (∀ entry : Json.Members,
        .object entry ∈ nullExpressionDefinition.entriesAt "extras" → ¬ entry.Absent "name")
      ∧ (ofJson ⟨none, .textOnly⟩ nullExpressionDefinition).map outcome
        = .error (.params "expression" (.extra "x" "q") (.missing "expression"))
      ∧ (ofJson ⟨none, .textOnly⟩ nullExpressionDefinition.withoutNullEntries).map outcome
        = .error (.missingField "type" (.extra "x" "q")) := by
  refine ⟨fun entry hentry => ?_, rfl, rfl⟩
  cases List.mem_singleton.mp hentry
  rintro (hname | hname) <;> cases hname

end Query

end RowSignals
