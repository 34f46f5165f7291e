import RowSignals.Proofs.Query.Names
import RowSignals.Query.Run

/-!
# The sources of a row

The columns of a row bind their names first, and then every extra that has a value binds its
name for the extras after it.

* `Query.rowContext`: what the columns of a row and its first extra see.
* `RowContext.afterExtra`, `RowContext.afterExtras`: what the extras after some others see;
  `extrasActivity_append`: what extras cause, with the first of them taken apart.
* `find?_sourcesOf`: every column is bound to its value.
* `find?_afterExtras_of_not_mem`, `find?_afterExtras_of_value`: the names that extras bind.
-/

namespace RowSignals

open Calendar (Instant)

/-! ## Sources -/

/-- A name is bound to the value that was given last. -/
theorem Sources.find?_bind (sources : Sources) (name other : String) (value : Value) :
    (sources.bind name value).find? other
      = if other = name then some value else sources.find? other := by
  unfold Sources.find? Sources.bind
  rw [List.lookup_cons]
  by_cases h : other = name
  · rw [if_pos h, beq_iff_eq.mpr h]
  · rw [if_neg h, beq_eq_false_iff_ne.mpr h]

/-! ## Extras one after the other -/

/-- What the extras after an extra see. -/
def RowContext.afterExtra (ctx : RowContext) (extra : Extra) : RowContext :=
  match (Query.extraActivity ctx extra).1 with
  | some value => { ctx with sources := ctx.sources.bind extra.name value }
  | none => ctx

/-- What the extras after some extras see. -/
def RowContext.afterExtras (ctx : RowContext) (extras : List Extra) : RowContext :=
  extras.foldl RowContext.afterExtra ctx

namespace RowContext

variable {ctx : RowContext}

/-- An extra with a value is a source for those after it. -/
theorem afterExtra_of_value {extra : Extra} {value : Value}
    (h : (Query.extraActivity ctx extra).1 = some value) :
    ctx.afterExtra extra = { ctx with sources := ctx.sources.bind extra.name value } := by
  rw [afterExtra, h]

/-- An extra without a value changes nothing for those after it. -/
theorem afterExtra_of_none {extra : Extra} (h : (Query.extraActivity ctx extra).1 = none) :
    ctx.afterExtra extra = ctx := by
  rw [afterExtra, h]

theorem afterExtras_append (before after : List Extra) :
    ctx.afterExtras (before ++ after) = (ctx.afterExtras before).afterExtras after :=
  List.foldl_append

/-- Extras leave the tags alone. -/
theorem tags_afterExtras (extras : List Extra) : (ctx.afterExtras extras).tags = ctx.tags := by
  induction extras generalizing ctx with
  | nil => rfl
  | cons extra extras ih =>
    show ((ctx.afterExtra extra).afterExtras extras).tags = _
    rw [ih, afterExtra]
    split
    · rfl
    · rfl

theorem find?_afterExtra_of_ne {extra : Extra} {name : String} (h : name ≠ extra.name) :
    (ctx.afterExtra extra).sources.find? name = ctx.sources.find? name := by
  unfold afterExtra
  split
  · show (ctx.sources.bind _ _).find? name = _
    rw [Sources.find?_bind, if_neg h]
  · rfl

/-- Extras leave the names of others alone. -/
theorem find?_afterExtras_of_not_mem {extras : List Extra} {name : String}
    (h : name ∉ extras.map Extra.name) :
    (ctx.afterExtras extras).sources.find? name = ctx.sources.find? name := by
  induction extras generalizing ctx with
  | nil => rfl
  | cons extra extras ih =>
    obtain ⟨hne, hrest⟩ := not_or.mp (List.mem_cons.not.mp h)
    show ((ctx.afterExtra extra).afterExtras extras).sources.find? name = _
    rw [ih hrest, find?_afterExtra_of_ne hne]

/-- The value of an extra is bound for the extras after it, as long as none of them has its
name. -/
theorem find?_afterExtras_of_value {before after : List Extra} {extra : Extra} {value : Value}
    (h : (Query.extraActivity (ctx.afterExtras before) extra).1 = some value)
    (hafter : extra.name ∉ after.map Extra.name) :
    (ctx.afterExtras (before ++ extra :: after)).sources.find? extra.name = some value := by
  rw [afterExtras_append]
  show (((ctx.afterExtras before).afterExtra extra).afterExtras after).sources.find? _ = _
  rw [find?_afterExtras_of_not_mem hafter, afterExtra_of_value h]
  show (Sources.bind _ _ _).find? _ = _
  rw [Sources.find?_bind, if_pos rfl]

end RowContext

/-! ## One row -/

theorem Activity.none_append (a : Activity) : Activity.none ++ a = a :=
  rfl

theorem Activity.append_assoc (a b c : Activity) : a ++ b ++ c = a ++ (b ++ c) := by
  show Activity.mk _ _ _ = Activity.mk _ _ _
  congr 1
  · exact List.append_assoc ..
  · exact List.append_assoc ..
  · exact List.append_assoc ..

theorem Activity.append_none (a : Activity) : a ++ Activity.none = a := by
  show Activity.mk _ _ _ = Activity.mk _ _ _
  congr 1
  · exact List.append_nil _
  · exact List.append_nil _
  · exact List.append_nil _

theorem Activity.signals_append (a b : Activity) : (a ++ b).signals = a.signals ++ b.signals :=
  rfl

theorem Activity.logs_append (a b : Activity) : (a ++ b).logs = a.logs ++ b.logs :=
  rfl

theorem Activity.signals_join (activities : List Activity) :
    (join activities).signals = activities.flatMap (·.signals) := by
  induction activities with
  | nil => rfl
  | cons activity activities ih =>
    show activity.signals ++ (join activities).signals = _
    rw [ih, List.flatMap_cons]

theorem Activity.logs_join (activities : List Activity) :
    (join activities).logs = activities.flatMap (·.logs) := by
  induction activities with
  | nil => rfl
  | cons activity activities ih =>
    show activity.logs ++ (join activities).logs = _
    rw [ih, List.flatMap_cons]

namespace Query

/-- What the columns of a row and its first extra see. -/
def rowContext (query : Query) (options : Options) (base : List String) (now : Instant)
    (row : Row) : RowContext :=
  ⟨query.sourcesOf row, query.tagsOf base row,
    (query.hostnameOfRow options (query.sourcesOf row)).1, options.checkId, now⟩

/-- A row causes what its host name, its columns and its extras cause, in this order. -/
theorem rowActivity_eq (query : Query) (options : Options) (base : List String) (now : Instant)
    (row : Row) : query.rowActivity options base now row
      = (query.hostnameOfRow options (query.sourcesOf row)).2
        ++ .join (query.columns.map
            (columnActivity (query.rowContext options base now row) row))
        ++ extrasActivity (query.rowContext options base now row) query.extras :=
  rfl

/-- The first extra, and then the others with what it binds. -/
theorem extrasActivity_cons (ctx : RowContext) (extra : Extra) (extras : List Extra) :
    extrasActivity ctx (extra :: extras)
      = (extraActivity ctx extra).2 ++ extrasActivity (ctx.afterExtra extra) extras :=
  rfl

/-- Extras cause what the first of them cause, and then what the others cause after them. -/
theorem extrasActivity_append (ctx : RowContext) (before after : List Extra) :
    extrasActivity ctx (before ++ after)
      = extrasActivity ctx before ++ extrasActivity (ctx.afterExtras before) after := by
  induction before generalizing ctx with
  | nil => exact (Activity.none_append _).symm
  | cons extra before ih =>
    rw [List.cons_append, extrasActivity_cons, extrasActivity_cons, ih, Activity.append_assoc]
    rfl

/-- Binding columns with distinct names binds every one of them to its value. -/
theorem find?_bindColumns {columns : List Column} (row : Row) (sources : Sources)
    (hnodup : (columns.map Column.name).Nodup) {column : Column} (hcolumn : column ∈ columns) :
    Sources.find? (columns.foldl (fun sources column =>
      sources.bind column.name (cell row column)) sources) column.name
        = some (cell row column) := by
  -- what is bound stays bound under the names that come later
  have hkeep {columns : List Column} {name : String} (sources : Sources)
      (hname : name ∉ columns.map Column.name) :
      Sources.find? (columns.foldl (fun sources column =>
        sources.bind column.name (cell row column)) sources) name = sources.find? name := by
    induction columns generalizing sources with
    | nil => rfl
    | cons first columns ih =>
      obtain ⟨hne, hrest⟩ := not_or.mp (List.mem_cons.not.mp hname)
      rw [List.foldl_cons, ih _ hrest, Sources.find?_bind, if_neg hne]
  induction columns generalizing sources with
  | nil => cases hcolumn
  | cons first columns ih =>
    obtain ⟨hnew, hnodup⟩ := List.nodup_cons.mp hnodup
    rw [List.foldl_cons]
    rcases List.mem_cons.mp hcolumn with rfl | hcolumn
    · rw [hkeep _ hnew, Sources.find?_bind, if_pos rfl]
    · exact ih _ hnodup hcolumn

namespace Compiled

variable {compileOptions : CompileOptions} {query : Query}

/-- Every column of a row is bound to its value. -/
theorem find?_sourcesOf (h : query.Compiled compileOptions) (row : Row) {column : Column}
    (hcolumn : column ∈ query.columns) :
    (query.sourcesOf row).find? column.name = some (cell row column) :=
  find?_bindColumns row [] (List.nodup_append.mp h.names_nodup).1 hcolumn

/-- The names of columns are bound in every row. -/
theorem bound_of_mem_columnNames (h : query.Compiled compileOptions) (row : Row) {name : String}
    (hname : name ∈ query.definition.columnNames) :
    ∃ value, (query.sourcesOf row).find? name = some value := by
  rw [← h.columnNames_eq] at hname
  obtain ⟨column, hcolumn, rfl⟩ := List.mem_map.mp hname
  exact ⟨_, h.find?_sourcesOf row hcolumn⟩

/-- No extra hides a column. -/
theorem find?_column_afterExtras (h : query.Compiled compileOptions) (options : Options)
    (base : List String) (now : Instant) (row : Row) {column : Column}
    (hcolumn : column ∈ query.columns) {before after : List Extra}
    (hextras : query.extras = before ++ after) :
    ((query.rowContext options base now row).afterExtras before).sources.find? column.name
      = some (cell row column) := by
  obtain ⟨-, -, hdistinct⟩ := List.nodup_append.mp h.names_nodup
  have hnew : column.name ∉ before.map Extra.name := by
    intro hmem
    have hlater : column.name ∈ query.extras.map Extra.name := by
      rw [hextras, List.map_append]
      exact List.mem_append_left _ hmem
    exact hdistinct _ (List.mem_map_of_mem hcolumn) _ hlater rfl
  rw [RowContext.find?_afterExtras_of_not_mem hnew]
  exact h.find?_sourcesOf row hcolumn

end Compiled

end Query

end RowSignals
