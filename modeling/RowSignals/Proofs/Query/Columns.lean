import RowSignals.Proofs.Query.Rows

/-!
# Columns and their positions

A compiled column keeps nothing of its place but the position, and the values of a row reach
their columns by position. Everything else in a row sees only which column has which value.

* `Query.Compiled.exists_field`, `Query.Compiled.positions`: the field of a column, and where
  columns stand.
* `Query.bound`: the columns of a query with their values in a row; `bound_eq_of_length`: they
  are the fields of the definition beside the values of the row.
-/

namespace RowSignals

/-! ## Positions -/

namespace Query

/-- Columns stand in the order of their positions. -/
theorem pairwise_columnsAt (scope : Scope) (index : Nat) (fields : List (Option Field)) :
    (columnsAt scope index fields).Pairwise fun column other => column.index < other.index := by
  have hpositions : (fields.zipIdx index).Pairwise fun placed later => placed.2 < later.2 := by
    have hrange := @List.pairwise_lt_range' index fields.length 1 Nat.one_pos
    rw [← List.zipIdx_map_snd] at hrange
    exact List.pairwise_map.mp hrange
  refine List.Pairwise.filterMap _ ?_ hpositions
  rintro ⟨field, position⟩ ⟨other, later⟩ hlt column hcolumn next hnext
  obtain ⟨_, -, rfl⟩ := Option.map_eq_some_iff.mp hcolumn
  obtain ⟨_, -, rfl⟩ := Option.map_eq_some_iff.mp hnext
  exact hlt

namespace Compiled

variable {options : CompileOptions} {query : Query}

/-- The columns of a compiled query are its fields at their positions. -/
theorem columns_eq (h : query.Compiled options) :
    query.columns = columnsAt (query.scope options) 0 query.definition.columns :=
  (columnsFrom_eq_ok_iff.mp h.columns).2

/-- Every column was compiled from the field at its position. -/
theorem exists_field (h : query.Compiled options) {column : Column}
    (hcolumn : column ∈ query.columns) :
    ∃ field, query.definition.columns[column.index]? = some (some field) ∧
      field.name = column.name ∧
      Transformer.ofParams (query.scope options) field.kind field.name field.params
        = .ok column.transformer := by
  obtain ⟨hfields, hcolumns⟩ := columnsFrom_eq_ok_iff.mp h.columns
  rw [hcolumns] at hcolumn
  obtain ⟨-, field, hfield, hname, htransformer⟩ := exists_field_of_mem_columnsAt hcolumn
  obtain ⟨transformer, hok⟩ := hfields field (List.mem_of_getElem? hfield)
  refine ⟨field, hfield, hname, ?_⟩
  rw [← htransformer, Field.transformerIn_of_ofParams hok, hok]

/-- The positions of columns are within the row and in order. -/
theorem positions (h : query.Compiled options) :
    query.columns.Pairwise (fun column other => column.index < other.index) ∧
      ∀ column ∈ query.columns, column.index < query.columnCount := by
  constructor
  · rw [h.columns_eq]
    exact pairwise_columnsAt _ _ _
  · intro column hcolumn
    obtain ⟨field, hfield, -⟩ := h.exists_field hcolumn
    exact (List.getElem?_eq_some_iff.mp hfield).1

end Compiled

/-! ## Columns with their values -/

/-- A column with its value in a row. -/
structure Bound where
  name : String
  transformer : Transformer
  value : Value

/-- The columns of a query with their values in a row. -/
def bound (query : Query) (row : Row) : List Bound :=
  query.columns.map fun column => ⟨column.name, column.transformer, cell row column⟩

/-- What a column with its value causes. -/
def Bound.activity (ctx : RowContext) (bound : Bound) : Activity :=
  columnActivity ctx [bound.value] ⟨0, bound.name, bound.transformer⟩

/-- The fields of positions with the values at these positions. -/
def boundAt (scope : Scope) (cells : List (Option Field × Value)) : List Bound :=
  cells.filterMap fun (field, value) =>
    field.map fun field => ⟨field.name, field.transformerIn scope, value⟩

/-- The columns of a row have the values that stand beside their fields. -/
theorem bound_eq_of_length {options : CompileOptions} {query : Query}
    (h : query.Compiled options) {row : Row} (hrow : row.length = query.columnCount) :
    query.bound row = boundAt (query.scope options) (query.definition.columns.zip row) := by
  have hzip : query.definition.columns.zip row
      = query.definition.columns.zipIdx.map fun placed =>
        (placed.1, row.getD placed.2 .null) := by
    have hlength : query.definition.columns.length = row.length := hrow.symm
    refine List.ext_getElem (by simp [hlength]) fun i hleft hright => ?_
    have hi : i < row.length := by
      rw [List.length_zip] at hleft
      omega
    simp [List.getD_eq_getElem?_getD, hi]
  rw [bound, h.columns_eq, columnsAt, boundAt, hzip, List.map_filterMap, List.filterMap_map]
  refine List.filterMap_congr fun placed _ => ?_
  obtain ⟨field, position⟩ := placed
  cases field with
  | none => rfl
  | some field => rfl

/-- The sources of a row depend only on the columns with their values. -/
theorem sourcesOf_eq (query : Query) (row : Row) : query.sourcesOf row
    = (query.bound row).foldl
      (fun sources bound => Sources.bind sources bound.name bound.value) [] := by
  rw [bound, List.foldl_map]
  rfl

theorem tagsOf_eq (query : Query) (base : List String) (row : Row) : query.tagsOf base row
    = distinctTags (base ++ (query.bound row).flatMap fun bound =>
      bound.transformer.rowTags bound.value) := by
  rw [bound, List.flatMap_map]
  rfl

theorem columnsActivity_eq (query : Query) (ctx : RowContext) (row : Row) :
    query.columns.map (columnActivity ctx row) = (query.bound row).map (Bound.activity ctx) := by
  rw [bound, List.map_map]
  rfl

end Query

end RowSignals
