import Mathlib.Data.List.Nodup
import RowSignals.Proofs.Results
import RowSignals.Query.Compiled

/-!
# The names of a query

What compiling a definition says about the names of its columns and extras. All of them are
distinct, and every part of the compiled query was compiled from its field against the names
before it.

* `Definition.names_nodup_of_ofJson`: the names of a checked definition are distinct.
* `Query.Compiled`, `Query.compiled_of_ofJson`: the steps of a compilation, as facts about its
  result.
* `Query.columnsAt`, `Query.columnsFrom_eq_ok_iff`: the columns of fields, each at its position.
* `Query.columnsFrom_eq_ok`, `Query.extrasOf_eq_ok`: the columns and extras of a compiled query.
-/

namespace RowSignals

/-! ## Checked definitions -/

/-- The names of fields, positions without a field left out. -/
def fieldNames (fields : List (Option Field)) : List String :=
  fields.filterMap fun field => field.map (·.name)

namespace Definition

/-- The names of the columns. -/
def columnNames (definition : Definition) : List String :=
  fieldNames definition.columns

/-- The names of the extras. -/
def extraNames (definition : Definition) : List String :=
  definition.extras.map (·.name)

/-- What can be declared was not declared before, and comes first among the names then. -/
theorem register_eq_ok {names others : Names} {name query : String} {place : Place}
    (h : register names name query place = .ok others) :
    name ∉ names.map Prod.fst ∧ others = (name, place) :: names := by
  unfold register at h
  split at h
  · cases h
  · rename_i hnone
    cases h
    refine ⟨?_, rfl⟩
    intro hmem
    obtain ⟨known, hknown, rfl⟩ := List.mem_map.mp hmem
    simpa using List.lookup_eq_none_iff.mp hnone known hknown

/-- The columns add their names in front of those that are there, all of them new. -/
theorem columnsFrom_names {query : String} {names others : Names} {position : Nat}
    {entries : List Json} {columns : List (Option Field)}
    (h : columnsFrom query names position entries = .ok (columns, others))
    (hnodup : (names.map Prod.fst).Nodup) :
    others.map Prod.fst = (fieldNames columns).reverse ++ names.map Prod.fst ∧
      (others.map Prod.fst).Nodup := by
  induction entries generalizing names position columns with
  | nil =>
    cases h
    exact ⟨rfl, hnodup⟩
  | cons entry entries ih =>
    obtain ⟨column, -, h⟩ := bind_eq_ok.mp h
    cases column with
    | none =>
      obtain ⟨_, ⟨rfl⟩, h⟩ := bind_eq_ok.mp h
      obtain ⟨⟨rest, final⟩, hrest, h⟩ := bind_eq_ok.mp h
      cases h
      obtain ⟨hnames, hfinal⟩ := ih hrest hnodup
      exact ⟨hnames, hfinal⟩
    | some field =>
      obtain ⟨more, hmore, h⟩ := bind_eq_ok.mp h
      obtain ⟨⟨rest, final⟩, hrest, h⟩ := bind_eq_ok.mp h
      cases h
      -- A name is registered only if it is new.
      obtain ⟨hnew, rfl⟩ := register_eq_ok hmore
      obtain ⟨hnames, hfinal⟩ := ih hrest (List.nodup_cons.mpr ⟨hnew, hnodup⟩)
      refine ⟨?_, hfinal⟩
      have hcons : fieldNames (some field :: rest) = field.name :: fieldNames rest := rfl
      rw [hnames, hcons, List.reverse_cons, List.append_assoc]
      rfl

/-- The names of extras are new and distinct. -/
theorem extrasFrom_names {query : String} {names : Names} {position : Nat} {entries : List Json}
    {extras : List Field} (h : extrasFrom query names position entries = .ok extras)
    (hnodup : (names.map Prod.fst).Nodup) :
    ((extras.map (·.name)).reverse ++ names.map Prod.fst).Nodup := by
  induction entries generalizing names position extras with
  | nil =>
    cases h
    exact hnodup
  | cons entry entries ih =>
    obtain ⟨field, -, h⟩ := bind_eq_ok.mp h
    obtain ⟨more, hmore, h⟩ := bind_eq_ok.mp h
    obtain ⟨rest, hrest, h⟩ := bind_eq_ok.mp h
    cases h
    obtain ⟨hnew, rfl⟩ := register_eq_ok hmore
    have hnames := ih hrest (List.nodup_cons.mpr ⟨hnew, hnodup⟩)
    rwa [List.map_cons, List.reverse_cons, List.append_assoc]

/-- No two columns or extras of a checked definition have the same name. -/
theorem names_nodup_of_ofJson {form : QueryForm} {raw : Json} {definition : Definition}
    (h : ofJson form raw = .ok definition) :
    (definition.columnNames ++ definition.extraNames).Nodup := by
  unfold ofJson at h
  split at h
  · obtain ⟨name, -, h⟩ := bind_eq_ok.mp h
    obtain ⟨query, -, h⟩ := bind_eq_ok.mp h
    obtain ⟨columnEntries, -, h⟩ := bind_eq_ok.mp h
    obtain ⟨tags, -, h⟩ := bind_eq_ok.mp h
    obtain ⟨interval, -, h⟩ := bind_eq_ok.mp h
    obtain ⟨metricPrefix, -, h⟩ := bind_eq_ok.mp h
    obtain ⟨hostname, -, h⟩ := bind_eq_ok.mp h
    obtain ⟨⟨columns, names⟩, hcolumns, h⟩ := bind_eq_ok.mp h
    obtain ⟨extraEntries, -, h⟩ := bind_eq_ok.mp h
    obtain ⟨extras, hextras, h⟩ := bind_eq_ok.mp h
    cases h
    obtain ⟨hnames, hnodup⟩ := columnsFrom_names hcolumns List.nodup_nil
    have hall := extrasFrom_names hextras hnodup
    rw [hnames, List.map_nil, List.append_nil, ← List.reverse_append] at hall
    exact List.nodup_reverse.mp hall
  · cases h

end Definition

/-! ## Compiled queries -/

/-- The transformer of a field that compiles. -/
def Field.transformerIn (scope : Scope) (field : Field) : Transformer :=
  (Transformer.ofParams scope field.kind field.name field.params).toOption.getD .source

/-- The transformer of a field is the one that its parameters make. -/
theorem Field.transformerIn_of_ofParams {scope : Scope} {field : Field} {transformer : Transformer}
    (h : Transformer.ofParams scope field.kind field.name field.params = .ok transformer) :
    field.transformerIn scope = transformer := by
  rw [transformerIn, h]
  rfl

namespace Query

/-- The names that the columns of a query are compiled against. -/
def scope (query : Query) (options : CompileOptions) : Scope :=
  ⟨options.nameSpace, query.definition.metricPrefix, query.definition.columnNames⟩

/-- What the steps of a compilation say about its result. -/
structure Compiled (options : CompileOptions) (query : Query) : Prop where
  names : (query.definition.columnNames ++ query.definition.extraNames).Nodup
  hostname : hostnameOf query.definition query.definition.columnNames = .ok query.hostname
  columns :
    columnsFrom (query.scope options) query.name 0 query.definition.columns = .ok query.columns
  extras : extrasOf (query.scope options) query.name query.definition.extras = .ok query.extras

theorem definition_of_ofDefinition {options : CompileOptions} {identity : Identity}
    {definition : Definition} {query : Query}
    (h : ofDefinition options identity definition = .ok query) : query.definition = definition := by
  obtain ⟨hostname, -, h⟩ := bind_eq_ok.mp h
  obtain ⟨columns, -, h⟩ := bind_eq_ok.mp h
  obtain ⟨extras, -, h⟩ := bind_eq_ok.mp h
  cases h
  rfl

/-- What is compiled from a raw definition is a compiled query. -/
theorem compiled_of_ofJson {options : CompileOptions} {raw : Json} {query : Query}
    (h : ofJson options raw = .ok query) : query.Compiled options := by
  obtain ⟨definition, hdefinition, h⟩ := bind_eq_ok.mp h
  obtain ⟨hostname, hhostname, h⟩ := bind_eq_ok.mp h
  obtain ⟨columns, hcolumns, h⟩ := bind_eq_ok.mp h
  obtain ⟨extras, hextras, h⟩ := bind_eq_ok.mp h
  cases h
  exact ⟨Definition.names_nodup_of_ofJson hdefinition, hhostname, hcolumns, hextras⟩

/-- The columns of fields that compile, from a position on. -/
def columnsAt (scope : Scope) (index : Nat) (fields : List (Option Field)) : List Column :=
  (fields.zipIdx index).filterMap fun (field, position) =>
    field.map fun field => ⟨position, field.name, field.transformerIn scope⟩

/-- The columns of positions, taken from the first one. -/
theorem columnsAt_cons (scope : Scope) (index : Nat) (field : Option Field)
    (fields : List (Option Field)) : columnsAt scope index (field :: fields)
      = (field.map fun field => Column.mk index field.name (field.transformerIn scope)).toList
        ++ columnsAt scope (index + 1) fields := by
  cases field with
  | none => rfl
  | some field => rfl

/-- Fields are compiled one by one. -/
theorem columnsFrom_eq_ok_iff {scope : Scope} {query : String} {index : Nat}
    {fields : List (Option Field)} {columns : List Column} :
    columnsFrom scope query index fields = .ok columns ↔
      (∀ field, some field ∈ fields → ∃ transformer,
        Transformer.ofParams scope field.kind field.name field.params = .ok transformer) ∧
      columns = columnsAt scope index fields := by
  induction fields generalizing index columns with
  | nil =>
    constructor
    · intro h
      cases h
      exact ⟨by simp, rfl⟩
    · rintro ⟨-, rfl⟩
      rfl
  | cons field fields ih =>
    cases field with
    | none =>
      -- a position without a field only moves the index
      have hsame : columnsFrom scope query index (none :: fields)
          = columnsFrom scope query (index + 1) fields := rfl
      rw [hsame, ih, columnsAt_cons]
      simp
    | some field =>
      rw [columnsAt_cons]
      constructor
      · intro h
        simp only [columnsFrom] at h
        split at h
        · cases h
        · rename_i transformer htransformer
          obtain ⟨rest, hrest, h⟩ := bind_eq_ok.mp h
          cases h
          obtain ⟨hfields, rfl⟩ := ih.mp hrest
          refine ⟨fun other hother => ?_, ?_⟩
          · rcases List.mem_cons.mp hother with heq | hother
            · cases heq
              exact ⟨transformer, htransformer⟩
            · exact hfields other hother
          · rw [← Field.transformerIn_of_ofParams htransformer]
            rfl
      · rintro ⟨hfields, rfl⟩
        obtain ⟨transformer, htransformer⟩ := hfields field List.mem_cons_self
        have hrest := (@ih (index + 1) _).mpr
          ⟨fun other hother => hfields other (List.mem_cons_of_mem _ hother), rfl⟩
        simp only [columnsFrom, htransformer]
        refine bind_eq_ok.mpr ⟨_, hrest, ?_⟩
        rw [← Field.transformerIn_of_ofParams htransformer]
        rfl

/-- A column has the position of its field. -/
theorem exists_field_of_mem_columnsAt {scope : Scope} {index : Nat} {fields : List (Option Field)}
    {column : Column} (h : column ∈ columnsAt scope index fields) :
    index ≤ column.index ∧ ∃ field, fields[column.index - index]? = some (some field) ∧
      field.name = column.name ∧ field.transformerIn scope = column.transformer := by
  obtain ⟨⟨field, position⟩, hplaced, h⟩ := List.mem_filterMap.mp h
  obtain ⟨hle, hfield⟩ := List.mem_zipIdx_iff_le_and_getElem?_sub.mp hplaced
  cases field with
  | none => cases h
  | some field =>
    cases h
    exact ⟨hle, field, hfield, rfl, rfl⟩

/-- The columns of positions have the names of the fields. -/
theorem names_columnsAt (scope : Scope) (index : Nat) (fields : List (Option Field)) :
    (columnsAt scope index fields).map Column.name = fieldNames fields := by
  induction fields generalizing index with
  | nil => rfl
  | cons field fields ih =>
    rw [columnsAt_cons, List.map_append, ih]
    cases field with
    | none => rfl
    | some field => rfl

/-- The columns have the names of their fields and positions within the row, and each was
compiled from its field. -/
theorem columnsFrom_eq_ok {scope : Scope} {query : String} {index : Nat}
    {fields : List (Option Field)} {columns : List Column}
    (h : columnsFrom scope query index fields = .ok columns) :
    columns.map Column.name = fieldNames fields ∧
      ∀ column ∈ columns, column.index < index + fields.length ∧
        ∃ kind name params, Transformer.ofParams scope kind name params
          = .ok column.transformer := by
  obtain ⟨hfields, rfl⟩ := columnsFrom_eq_ok_iff.mp h
  refine ⟨names_columnsAt scope index fields, fun column hcolumn => ?_⟩
  obtain ⟨hle, field, hfield, -, htransformer⟩ := exists_field_of_mem_columnsAt hcolumn
  obtain ⟨transformer, hok⟩ := hfields field (List.mem_of_getElem? hfield)
  have hlt := (List.getElem?_eq_some_iff.mp hfield).1
  refine ⟨by omega, field.kind, field.name, field.params, ?_⟩
  rw [← htransformer, Field.transformerIn_of_ofParams hok, hok]

/-- The extras have the names of their fields, and each was compiled from its field against the
names of the columns and of the extras before it. -/
theorem extrasOf_eq_ok {scope : Scope} {query : String} {fields : List Field}
    {extras : List Extra} (h : extrasOf scope query fields = .ok extras) :
    extras.map Extra.name = fields.map Field.name ∧
      ∀ before extra after, extras = before ++ extra :: after →
        ∃ field, fields[before.length]? = some field ∧ field.name = extra.name ∧
          ExtraAction.ofParams { scope with sources := scope.sources ++ before.map Extra.name }
            field.kind field.name field.params = .ok extra.action := by
  induction fields generalizing scope extras with
  | nil =>
    cases h
    refine ⟨rfl, ?_⟩
    intro before extra after hsplit
    cases before <;> cases hsplit
  | cons field fields ih =>
    obtain ⟨first, hfirst, h⟩ := bind_eq_ok.mp h
    obtain ⟨rest, hrest, h⟩ := bind_eq_ok.mp h
    cases h
    unfold Extra.ofField at hfirst
    split at hfirst
    · rename_i action haction
      cases hfirst
      obtain ⟨hnames, hextras⟩ := ih hrest
      refine ⟨congrArg (field.name :: ·) hnames, ?_⟩
      intro before extra after hsplit
      cases before with
      | nil =>
        cases hsplit
        refine ⟨field, rfl, rfl, ?_⟩
        rw [List.map_nil, List.append_nil]
        exact haction
      | cons earlier before =>
        -- the first extra is known to the later ones
        cases hsplit
        obtain ⟨later, hlater, hname, hparams⟩ := hextras before extra after rfl
        refine ⟨later, hlater, hname, ?_⟩
        rw [List.append_assoc] at hparams
        exact hparams
    · cases hfirst

namespace Compiled

variable {options : CompileOptions} {query : Query}

/-- The columns of a query have the names of its definition. -/
theorem columnNames_eq (h : query.Compiled options) :
    query.columns.map Column.name = query.definition.columnNames :=
  (columnsFrom_eq_ok h.columns).1

theorem extraNames_eq (h : query.Compiled options) :
    query.extras.map Extra.name = query.definition.extraNames :=
  (extrasOf_eq_ok h.extras).1

/-- No two columns or extras of a compiled query have the same name. -/
theorem names_nodup (h : query.Compiled options) :
    (query.columns.map Column.name ++ query.extras.map Extra.name).Nodup := by
  rw [h.columnNames_eq, h.extraNames_eq]
  exact h.names

end Compiled

end Query

end RowSignals
