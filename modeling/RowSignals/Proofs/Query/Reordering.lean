import RowSignals.Proofs.Query.Alike
import RowSignals.Proofs.Query.Definitions
import RowSignals.Proofs.Query.Scopes
import RowSignals.Proofs.Query.Stream

/-!
# Columns in another order

Values reach their columns by position. Apart from that, what a definition means does not depend
on the order of its columns: sources and tags of a row are collected before anything is
submitted, and names are distinct.

* `Json.withColumns`: a raw definition with other columns; `Query.ofJson_withColumns`: it compiles
  if it has the same fields.
* `Query.rowActivity_eq_of_bound`: rows that bind the same values cause the same.
* `Query.columns_bound_by_position`: placeholders do not matter, and neither does the order.
-/

namespace RowSignals

open Calendar (Instant)

/-! ## Definitions with other columns -/

/-- The members of a definition with other columns. -/
def Json.Members.withColumns (entries : List Json) (members : Json.Members) : Json.Members :=
  members.map fun (key, value) => (key, if key = "columns" then .array entries else value)

/-- A raw definition with other columns. -/
def Json.withColumns (entries : List Json) : Json → Json
  | .object members => .object (Members.withColumns entries members)
  | raw => raw

/-- Other columns change the columns of a definition and nothing else. -/
theorem Json.Members.get?_withColumns (entries : List Json) (members : Json.Members)
    (key : String) : (members.withColumns entries).get? key
      = (members.get? key).map fun value => if key = "columns" then .array entries else value := by
  unfold get? withColumns
  induction members with
  | nil => rfl
  | cons member members ih =>
    rw [List.map_cons, List.lookup_cons, List.lookup_cons, ih]
    by_cases hkey : key = member.1
    · subst hkey
      rw [beq_self_eq_true]
      rfl
    · rw [beq_eq_false_iff_ne.mpr hkey]

theorem Json.Members.present?_withColumns_of_ne (entries : List Json) (members : Json.Members)
    {key : String} (hkey : key ≠ "columns") :
    (members.withColumns entries).present? key = members.present? key := by
  simp only [present?, get?_withColumns, if_neg hkey, Option.map_id']

namespace Definition

/-- An entry that leaves its position without a column. -/
def IsPlaceholder (entry : Json) : Prop :=
  entry = .null ∨ entry = .object []

theorem IsPlaceholder.readable {entry : Json} (h : IsPlaceholder entry) :
    Readable entry ∧ entryField entry = none := by
  rcases h with rfl | rfl
  · exact ⟨⟨none, rfl⟩, rfl⟩
  · exact ⟨⟨none, rfl⟩, rfl⟩

theorem fieldNames_entries (entries : List Json) :
    fieldNames (entries.map entryField) = (entries.filterMap entryField).map Field.name := by
  rw [fieldNames, List.filterMap_map, List.map_filterMap]
  rfl

section
variable {form : QueryForm} {members : Json.Members} {definition : Definition}
  {entries others : List Json}

/-- The columns of a checked definition are the fields of its entries, which can all be read. -/
theorem Checked.columns_eq (h : Checked form members definition)
    (hentries : members.get? "columns" = some (.array entries)) :
    (∀ entry ∈ entries, Readable entry) ∧ definition.columns = entries.map entryField ∧
      (fieldNames definition.columns).Nodup := by
  obtain ⟨columns, names, -, hcolumns, hfields, -, -⟩ := h.parts
  have hpresent : present? members "columns" = some (.array entries) := by
    simp only [present?, Json.Members.present?, hentries]
  obtain rfl : entries = columns := by
    unfold columnEntries at hcolumns
    rw [hpresent] at hcolumns
    cases hcolumns
    rfl
  obtain ⟨hreadable, heq, hnodup, -⟩ := columnsFrom_eq_ok_iff.mp ⟨_, hfields⟩
  exact ⟨hreadable, heq, hnodup⟩

/-- The same fields have the same names. -/
theorem Checked.mem_names_iff (h : Checked form members definition)
    (hentries : members.get? "columns" = some (.array entries))
    (hfields : (others.filterMap entryField).Perm (entries.filterMap entryField)) (n : String) :
    n ∈ fieldNames (others.map entryField) ↔ n ∈ definition.columnNames := by
  rw [columnNames, (h.columns_eq hentries).2.1, fieldNames_entries, fieldNames_entries]
  exact (hfields.map Field.name).mem_iff

/-- A definition with the same fields at other positions can be checked as well. -/
theorem Checked.withColumns (h : Checked form members definition)
    (hentries : members.get? "columns" = some (.array entries))
    (hreadable : ∀ entry ∈ others, Readable entry)
    (hfields : (others.filterMap entryField).Perm (entries.filterMap entryField)) :
    Checked form (members.withColumns others)
      { definition with columns := others.map entryField } := by
  have hkeep {key : String} (hkey : key ≠ "columns") :
      (members.withColumns others).present? key = members.present? key :=
    members.present?_withColumns_of_ne others hkey
  have hcolumns : present? (members.withColumns others) "columns" = some (.array others) := by
    simp only [present?, Json.Members.present?, Json.Members.get?_withColumns, hentries]
    rfl
  obtain ⟨-, heq, hnodup⟩ := h.columns_eq hentries
  have hnames : (fieldNames (others.map entryField)).Perm (fieldNames definition.columns) := by
    rw [heq, fieldNames_entries, fieldNames_entries]
    exact hfields.map Field.name
  obtain ⟨names, hothers⟩ := (@columnsFrom_eq_ok_iff definition.name [] 1 others _).mpr
    ⟨hreadable, rfl, hnames.nodup_iff.mpr hnodup, by simp⟩
  obtain ⟨columns, earlier, extras, -, hbefore, hextraEntries, hextras⟩ := h.parts
  refine ⟨?_, ?_, ?_, ?_, ?_, ?_, others, names, extras, ?_, hothers, ?_, ?_⟩
  · rw [← h.name]
    simp only [nameOf, present?, hkeep (by decide : "name" ≠ "columns")]
  · rw [← h.query]
    simp only [queryOf, present?, hkeep (by decide : "query" ≠ "columns")]
  · rw [← h.tags]
    simp only [tagsOf, present?, hkeep (by decide : "tags" ≠ "columns")]
  · rw [← h.interval]
    simp only [intervalOf, present?, hkeep (by decide : "collection_interval" ≠ "columns")]
  · rw [← h.metricPrefix]
    simp only [metricPrefixOf, present?, hkeep (by decide : "metric_prefix" ≠ "columns")]
  · rw [← h.hostname]
    simp only [hostnameOf, present?, hkeep (by decide : "hostname" ≠ "columns")]
  · simp only [columnEntries, hcolumns]
  · rw [← hextraEntries]
    simp only [extraEntries, present?, hkeep (by decide : "extras" ≠ "columns")]
  · -- the extras see the same names, in another order
    refine extrasFrom_congr (fun n => ?_) hextras
    obtain ⟨hafter, -⟩ := columnsFrom_names hothers List.nodup_nil
    obtain ⟨hearlier, -⟩ := columnsFrom_names hbefore List.nodup_nil
    rw [hafter, hearlier]
    simp only [List.mem_append, List.mem_reverse, hnames.mem_iff]

end

end Definition

namespace Query

open Definition (Readable IsPlaceholder entryField)

section
variable {compileOptions : CompileOptions} {raw : Json} {query : Query}
  {entries others : List Json}

/-- What is compiled from a raw definition passed the checks as an object. -/
theorem exists_checked (hquery : ofJson compileOptions raw = .ok query) :
    ∃ members : Json.Members, raw = .object members ∧
      Definition.Checked compileOptions.form members query.definition := by
  obtain ⟨definition, hdefinition, hcompiled⟩ := bind_eq_ok.mp hquery
  rw [definition_of_ofDefinition hcompiled]
  exact Definition.ofJson_eq_ok_iff.mp hdefinition

/-- A definition with the same fields at other positions compiles as well. It has the same host
name and the same extras. -/
theorem ofJson_withColumns (hquery : ofJson compileOptions raw = .ok query)
    (hentries : raw.member? "columns" = some (.array entries))
    (hreadable : ∀ entry ∈ others, Readable entry)
    (hfields : (others.filterMap entryField).Perm (entries.filterMap entryField)) :
    ∃ other, ofJson compileOptions (raw.withColumns others) = .ok other ∧
      other.definition = { query.definition with columns := others.map entryField } ∧
      other.hostname = query.hostname ∧ other.extras = query.extras := by
  obtain ⟨members, rfl, hchecked⟩ := exists_checked hquery
  have hentries : members.get? "columns" = some (.array entries) := hentries
  have hother := hchecked.withColumns hentries hreadable hfields
  have hdefinition := Definition.ofJson_eq_ok_iff.mpr ⟨_, rfl, hother⟩
  have h := compiled_of_ofJson hquery
  have hsame := hchecked.mem_names_iff hentries hfields
  obtain ⟨hcompiles, -⟩ := columnsFrom_eq_ok_iff.mp h.columns
  -- A transformer depends on the set of names in scope only, which the order does not change.
  have hcolumns : ∀ field, some field ∈ others.map entryField → ∃ transformer,
      Transformer.ofParams
        { query.scope compileOptions with sources := fieldNames (others.map entryField) }
        field.kind field.name field.params = .ok transformer := by
    intro field hfield
    obtain ⟨entry, hentry, hfield⟩ := List.mem_map.mp hfield
    have hmem := hfields.mem_iff.mp (List.mem_filterMap.mpr ⟨entry, hentry, hfield⟩)
    obtain ⟨earlier, hearlier, hfield⟩ := List.mem_filterMap.mp hmem
    rw [Transformer.ofParams_congr hsame]
    refine hcompiles field ?_
    rw [(hchecked.columns_eq hentries).2.1]
    exact List.mem_map.mpr ⟨earlier, hearlier, hfield⟩
  refine ⟨_, bind_eq_ok.mpr ⟨_, hdefinition, bind_eq_ok.mpr ⟨query.hostname, ?_,
    bind_eq_ok.mpr ⟨_, columnsFrom_eq_ok_iff.mpr ⟨hcolumns, rfl⟩,
      bind_eq_ok.mpr ⟨query.extras, ?_, rfl⟩⟩⟩⟩, rfl, rfl, rfl⟩
  · rw [← h.hostname]
    exact hostnameOf_congr hsame rfl rfl
  · rw [← h.extras]
    exact @extrasOf_congr (query.scope compileOptions) _ hsame _ _

end

/-! ## Rows that bind the same values -/

/-- A row that binds the same values to the same columns causes the same. -/
theorem rowActivity_eq_of_bound {query other : Query} {row cells : Row}
    (hbound : other.bound cells = query.bound row) (hname : other.name = query.name)
    (hhostname : other.hostname = query.hostname) (hextras : other.extras = query.extras)
    (options : Options) (base : List String) (now : Instant) :
    other.rowActivity options base now cells = query.rowActivity options base now row := by
  have hsources : other.sourcesOf cells = query.sourcesOf row := by
    rw [sourcesOf_eq, sourcesOf_eq, hbound]
  have hhost : other.hostnameOfRow options (other.sourcesOf cells)
      = query.hostnameOfRow options (query.sourcesOf row) := by
    simp only [hostnameOfRow, hsources, hname, hhostname]
  have hctx : other.rowContext options base now cells = query.rowContext options base now row := by
    rw [rowContext, rowContext, hhost, hsources, tagsOf_eq, tagsOf_eq, hbound]
  rw [rowActivity_eq, rowActivity_eq, hhost, hctx, columnsActivity_eq, columnsActivity_eq, hbound,
    hextras]

/-- The answer of one row of the right length causes what the row causes. -/
theorem answerActivity_single {query : Query} {row : Row} (hne : row ≠ [])
    (hrow : row.length = query.columnCount) (options : Options) (extraTags : List String)
    (now : Instant) : query.answerActivity options extraTags now (.rows [row] none)
      = query.rowActivity options (query.baseTags options extraTags) now row := by
  have hstream := @answerActivity_ofStream query options extraTags now [.ok row]
  rw [streamActivity_single, itemActivity_of_length hne hrow] at hstream
  exact hstream

/-- What the columns of a row cause. -/
def columnsPart (query : Query) (options : Options) (base : List String) (now : Instant)
    (row : Row) : Activity :=
  .join (query.columns.map (columnActivity (query.rowContext options base now row) row))

/-- What the extras of a row cause. -/
def extrasPart (query : Query) (options : Options) (base : List String) (now : Instant)
    (row : Row) : Activity :=
  extrasActivity (query.rowContext options base now row) query.extras

/-- A row causes what its columns cause and then what its extras cause. -/
theorem Compiled.rowActivity_parts {compileOptions : CompileOptions} {query : Query}
    (h : query.Compiled compileOptions) (options : Options) (base : List String) (now : Instant)
    (row : Row) : query.rowActivity options base now row
      = query.columnsPart options base now row ++ query.extrasPart options base now row := by
  rw [rowActivity_eq, h.hostnameOfRow_none, Activity.none_append]
  rfl

section
variable {compileOptions : CompileOptions} {query other : Query} {row cells : Row}

/-- A row that binds the same values in another order is seen alike. -/
theorem rowContext_alike (h : query.Compiled compileOptions)
    (hperm : (other.bound cells).Perm (query.bound row)) (hname : other.name = query.name)
    (hhostname : other.hostname = query.hostname) (options : Options) (base : List String)
    (now : Instant) : (query.rowContext options base now row).Alike
      (other.rowContext options base now cells) := by
  have hnodup : ((query.bound row).map Bound.name).Nodup := by
    rw [bound, List.map_map]
    exact (List.nodup_append.mp h.names_nodup).1
  have hsources (n : String) :
      (other.sourcesOf cells).find? n = (query.sourcesOf row).find? n := by
    rw [sourcesOf_eq, sourcesOf_eq]
    exact Bound.find?_perm hperm hnodup n
  have hhost : other.hostnameOfRow options (other.sourcesOf cells)
      = query.hostnameOfRow options (query.sourcesOf row) := by
    unfold hostnameOfRow
    rw [hhostname, hname]
    cases query.hostname with
    | none => rfl
    | some template => simp only [Template.render_congr fun n _ => hsources n]
  refine ⟨hsources, ?_, congrArg Prod.fst hhost, rfl, rfl⟩
  show (other.tagsOf base cells).toFinset = (query.tagsOf base row).toFinset
  ext tag
  rw [tagsOf_eq, tagsOf_eq, List.mem_toFinset, List.mem_toFinset, distinctTags, distinctTags,
    (nodup_mem_firstOccurrences _).2, (nodup_mem_firstOccurrences _).2, List.mem_append,
    List.mem_append, (hperm.flatMap_right _).mem_iff]

/-- A row that binds the same values in another order causes the same, up to the order of tags
and of what the columns cause. -/
theorem parts_alike (h : query.Compiled compileOptions)
    (hperm : (other.bound cells).Perm (query.bound row)) (hname : other.name = query.name)
    (hhostname : other.hostname = query.hostname) (hextras : other.extras = query.extras)
    (options : Options) (base : List String) (now : Instant) :
    ((other.columnsPart options base now cells).signals.map Signal.withTagSet).Perm
        ((query.columnsPart options base now row).signals.map Signal.withTagSet) ∧
      (other.columnsPart options base now cells).logs.Perm
        (query.columnsPart options base now row).logs ∧
      (query.extrasPart options base now row).Alike
        (other.extrasPart options base now cells) := by
  have hctx := rowContext_alike h hperm hname hhostname options base now
  obtain ⟨hsignals, hlogs⟩ := Bound.perm_alike hctx hperm
  rw [columnsPart, columnsPart, columnsActivity_eq, columnsActivity_eq, extrasPart, extrasPart,
    hextras]
  exact ⟨hsignals, hlogs, extrasActivity_alike hctx query.extras⟩

end

/-! ## Cells beside entries -/

section
variable {compileOptions : CompileOptions} {raw : Json} {query : Query}
  {entries others : List Json}

/-- Cells in positions without a column do not reach a column. -/
theorem bound_eq_of_placeholders (hquery : ofJson compileOptions raw = .ok query)
    (hentries : raw.member? "columns" = some (.array entries)) {row cells : Row}
    (hcells : ∀ (i : Nat) (entry : Json), entries[i]? = some entry → ¬ IsPlaceholder entry →
      cells[i]? = row[i]?) :
    query.bound cells = query.bound row := by
  obtain ⟨members, rfl, hchecked⟩ := exists_checked hquery
  have hcolumns := (hchecked.columns_eq hentries).2.1
  refine List.map_congr_left fun column hcolumn => ?_
  obtain ⟨field, hfield, -⟩ := (compiled_of_ofJson hquery).exists_field hcolumn
  rw [hcolumns, List.getElem?_map] at hfield
  obtain ⟨entry, hentry, hfield⟩ := Option.map_eq_some_iff.mp hfield
  have hcolumn : ¬ IsPlaceholder entry := by
    intro hplaceholder
    cases hfield.symm.trans hplaceholder.readable.2
  have hsame := hcells _ entry hentry hcolumn
  simp only [cell, List.getD_eq_getElem?_getD, hsame]

/-- What entries of columns bind, each to the value beside it. -/
def boundEntries (scope : Scope) (cells : List (Json × Value)) : List Bound :=
  boundAt scope (cells.map fun (entry, value) => (entryField entry, value))

theorem boundEntries_append (scope : Scope) (cells more : List (Json × Value)) :
    boundEntries scope (cells ++ more) = boundEntries scope cells ++ boundEntries scope more := by
  rw [boundEntries, List.map_append, boundAt, List.filterMap_append]
  rfl

/-- A placeholder binds nothing, whatever value stands beside it. -/
theorem boundEntries_placeholder (scope : Scope) {entry : Json} (h : IsPlaceholder entry)
    (value : Value) (cells : List (Json × Value)) :
    boundEntries scope ((entry, value) :: cells) = boundEntries scope cells := by
  show boundAt scope ((entryField entry, value) :: _) = _
  rw [h.readable.2]
  rfl

/-- Entries in another order bind the same in another order. -/
theorem boundEntries_perm (scope : Scope) {cells more : List (Json × Value)}
    (h : more.Perm cells) : (boundEntries scope more).Perm (boundEntries scope cells) :=
  (h.map _).filterMap _

/-- The columns of a row bind the values beside their entries. -/
theorem bound_eq_boundEntries (h : query.Compiled compileOptions)
    (hcolumns : query.definition.columns = entries.map entryField) {row : Row}
    (hrow : row.length = entries.length) :
    query.bound row = boundEntries (query.scope compileOptions) (entries.zip row) := by
  have hcount : row.length = query.columnCount := by
    rw [columnCount, hcolumns, List.length_map, hrow]
  rw [bound_eq_of_length h hcount, hcolumns, List.zip_map_left]
  rfl

/-- The other columns may stand anywhere: a column is compiled in the same way. -/
theorem boundEntries_congr {scope : Scope} {names : List String}
    (hsame : ∀ n, n ∈ names ↔ n ∈ scope.sources) (cells : List (Json × Value)) :
    boundEntries { scope with sources := names } cells = boundEntries scope cells := by
  simp only [boundEntries, boundAt, Field.transformerIn, Transformer.ofParams_congr hsame]

/-- What a definition with the same fields at other positions compiles to. -/
structure Rearranged (compileOptions : CompileOptions) (query : Query) (entries : List Json)
    (other : Query) : Prop where
  name : other.name = query.name
  tags : other.definition.tags = query.definition.tags
  hostname : other.hostname = query.hostname
  extras : other.extras = query.extras
  columnCount : other.columnCount = entries.length
  bound : ∀ cells : Row, cells.length = entries.length →
    other.bound cells = boundEntries (query.scope compileOptions) (entries.zip cells)

/-- A definition with the same fields at other positions compiles, and to a query that differs
in its columns only. -/
theorem exists_rearranged (hquery : ofJson compileOptions raw = .ok query)
    (hentries : raw.member? "columns" = some (.array entries))
    (hreadable : ∀ entry ∈ others, Readable entry)
    (hfields : (others.filterMap entryField).Perm (entries.filterMap entryField)) :
    ∃ other, ofJson compileOptions (raw.withColumns others) = .ok other ∧
      Rearranged compileOptions query others other := by
  obtain ⟨other, hother, hdefinition, hhostname, hextras⟩ :=
    ofJson_withColumns hquery hentries hreadable hfields
  obtain ⟨members, rfl, hchecked⟩ := exists_checked hquery
  have hcolumns : other.definition.columns = others.map entryField := by rw [hdefinition]
  have hsame := hchecked.mem_names_iff hentries hfields
  have hscope : other.scope compileOptions = { query.scope compileOptions with
      sources := fieldNames (others.map entryField) } := by
    rw [scope, Definition.columnNames, hcolumns, hdefinition]
    rfl
  refine ⟨other, hother, ?_, ?_, hhostname, hextras, ?_, fun cells hcells => ?_⟩
  · rw [Query.name, hdefinition]
    rfl
  · rw [hdefinition]
  · rw [columnCount, hcolumns, List.length_map]
  · rw [bound_eq_boundEntries (compiled_of_ofJson hother) hcolumns hcells, hscope]
    exact @boundEntries_congr (query.scope compileOptions) _ hsame _

end

/-! ## The order of the columns -/

/-- The tags before those of columns do not depend on the positions. -/
theorem Rearranged.baseTags {compileOptions : CompileOptions} {query other : Query}
    {entries : List Json} (h : Rearranged compileOptions query entries other) (options : Options)
    (extraTags : List String) :
    other.baseTags options extraTags = query.baseTags options extraTags := by
  rw [Query.baseTags, h.tags]
  rfl

section
variable {compileOptions : CompileOptions} {raw : Json} {query : Query}

/-- The columns of a compiled definition are the fields of its entries. -/
theorem entries_eq {entries : List Json} (hquery : ofJson compileOptions raw = .ok query)
    (hentries : raw.member? "columns" = some (.array entries)) :
    (∀ entry ∈ entries, Readable entry) ∧
      query.definition.columns = entries.map entryField ∧ query.columnCount = entries.length := by
  obtain ⟨members, rfl, hchecked⟩ := exists_checked hquery
  obtain ⟨hreadable, hcolumns, -⟩ := hchecked.columns_eq hentries
  refine ⟨hreadable, hcolumns, ?_⟩
  rw [columnCount, hcolumns, List.length_map]

/-- A placeholder with a cell beside it may be put in anywhere. -/
theorem rowActivity_insert {before after : List Json} {first rest : Row} {placeholder : Json}
    (hquery : ofJson compileOptions raw = .ok query)
    (hentries : raw.member? "columns" = some (.array (before ++ after)))
    (hrow : (first ++ rest).length = query.columnCount) (hsplit : before.length = first.length)
    (hplaceholder : IsPlaceholder placeholder) (value : Value) (options : Options)
    (base : List String) (now : Instant) :
    ∃ other, ofJson compileOptions (raw.withColumns (before ++ placeholder :: after)) = .ok other ∧
      Rearranged compileOptions query (before ++ placeholder :: after) other ∧
      (first ++ value :: rest).length = other.columnCount ∧
      other.rowActivity options base now (first ++ value :: rest)
        = query.rowActivity options base now (first ++ rest) := by
  obtain ⟨hreadable, hcolumns, hcount⟩ := entries_eq hquery hentries
  have hreadable : ∀ entry ∈ before ++ placeholder :: after, Readable entry := by
    intro entry hentry
    rcases List.mem_append.mp hentry with hentry | hentry
    · exact hreadable entry (List.mem_append_left _ hentry)
    · rcases List.mem_cons.mp hentry with rfl | hentry
      · exact hplaceholder.readable.1
      · exact hreadable entry (List.mem_append_right _ hentry)
  -- A placeholder is no field, so the fields are the same and in the same order.
  have hfields : (before ++ placeholder :: after).filterMap entryField
      = (before ++ after).filterMap entryField := by
    rw [List.filterMap_append, List.filterMap_append,
      List.filterMap_cons_none hplaceholder.readable.2]
  obtain ⟨other, hother, hrearranged⟩ :=
    exists_rearranged hquery hentries hreadable (.of_eq hfields)
  have hlength : (first ++ value :: rest).length = (before ++ placeholder :: after).length := by
    simp only [List.length_append, List.length_cons] at hrow hcount ⊢
    omega
  -- Nor does it bind its cell to a name.
  have hbound : other.bound (first ++ value :: rest) = query.bound (first ++ rest) := by
    rw [hrearranged.bound _ hlength,
      bound_eq_boundEntries (compiled_of_ofJson hquery) hcolumns (hrow.trans hcount),
      List.zip_append hsplit, List.zip_append hsplit, List.zip_cons_cons, boundEntries_append,
      boundEntries_append, boundEntries_placeholder _ hplaceholder]
  refine ⟨other, hother, hrearranged, hlength.trans hrearranged.columnCount.symm, ?_⟩
  exact rowActivity_eq_of_bound hbound hrearranged.name hrearranged.hostname hrearranged.extras
    options base now

/-- Entries may be put in another order together with the cells beside them. -/
theorem exists_rearranged_perm {entries others : List Json} {row cells : Row}
    (hquery : ofJson compileOptions raw = .ok query)
    (hentries : raw.member? "columns" = some (.array entries))
    (hrow : row.length = query.columnCount) (hcells : others.length = cells.length)
    (hperm : (others.zip cells).Perm (entries.zip row)) :
    ∃ other, ofJson compileOptions (raw.withColumns others) = .ok other ∧
      Rearranged compileOptions query others other ∧ cells.length = row.length ∧
      (other.bound cells).Perm (query.bound row) := by
  obtain ⟨hreadable, hcolumns, hcount⟩ := entries_eq hquery hentries
  have hlength : row.length = entries.length := hrow.trans hcount
  have hothers : others.Perm entries := by
    have hfirst := hperm.map Prod.fst
    rwa [List.map_fst_zip hcells.le, List.map_fst_zip hlength.ge] at hfirst
  obtain ⟨other, hother, hrearranged⟩ := exists_rearranged hquery hentries
    (fun entry hentry => hreadable entry (hothers.mem_iff.mp hentry)) (hothers.filterMap _)
  refine ⟨other, hother, hrearranged, ?_, ?_⟩
  · rw [← hcells, hothers.length_eq, hlength]
  · rw [hrearranged.bound cells hcells.symm,
      bound_eq_boundEntries (compiled_of_ofJson hquery) hcolumns hlength]
    exact boundEntries_perm _ hperm

end

/-- Columns are bound by position, and nothing else depends on their order. The positions of
columns are within the row and ascend. Cells beside placeholders do not matter, and a placeholder
may be put in anywhere with any cell beside it. If entries are put in another order together with
their cells, the definition compiles as well; the columns cause the same in another order, and
the extras cause the same, with tags compared as sets. -/
theorem columns_bound_by_position {compileOptions : CompileOptions} {raw : Json} {query : Query}
    (hquery : ofJson compileOptions raw = .ok query) {entries : List Json}
    (hentries : raw.member? "columns" = some (.array entries)) (hne : entries ≠ []) {row : Row}
    (hrow : row.length = query.columnCount) (options : Options) (extraTags : List String)
    (now : Instant) :
    let base := query.baseTags options extraTags
    let activity := query.answerActivity options extraTags now (.rows [row] none)
    query.columns.Pairwise (fun column later => column.index < later.index) ∧
    (∀ column ∈ query.columns, column.index < row.length) ∧
    (∀ cells : Row, cells.length = row.length →
      (∀ (i : Nat) (entry : Json), entries[i]? = some entry → ¬ IsPlaceholder entry →
        cells[i]? = row[i]?) →
      query.answerActivity options extraTags now (.rows [cells] none) = activity) ∧
    (∀ before after first rest placeholder value, entries = before ++ after →
      row = first ++ rest → before.length = first.length → IsPlaceholder placeholder →
      ∃ other, ofJson compileOptions (raw.withColumns (before ++ placeholder :: after))
          = .ok other ∧
        other.answerActivity options extraTags now (.rows [first ++ value :: rest] none)
          = activity) ∧
    ∀ (others : List Json) (cells : Row), others.length = cells.length →
      (others.zip cells).Perm (entries.zip row) →
      ∃ other, ofJson compileOptions (raw.withColumns others) = .ok other ∧
        let rearranged := other.answerActivity options extraTags now (.rows [cells] none)
        let columns := query.columnsPart options base now row
        let extras := query.extrasPart options base now row
        let otherColumns := other.columnsPart options base now cells
        let otherExtras := other.extrasPart options base now cells
        activity = columns ++ extras ∧ rearranged = otherColumns ++ otherExtras ∧
        (rearranged.signals.map Signal.withTagSet).Perm
          (activity.signals.map Signal.withTagSet) ∧
        otherColumns.logs.Perm columns.logs ∧
        otherExtras.signals.map Signal.withTagSet = extras.signals.map Signal.withTagSet ∧
        otherExtras.logs = extras.logs := by
  intro base activity
  have h := compiled_of_ofJson hquery
  have hcount : query.columnCount = entries.length := (entries_eq hquery hentries).2.2
  have hcells_ne {cells : Row} (hcells : cells.length = row.length) : cells ≠ [] := by
    rw [← List.length_pos_iff, hcells, hrow, hcount]
    exact List.length_pos_iff.mpr hne
  have hactivity : activity = query.rowActivity options base now row :=
    answerActivity_single (hcells_ne rfl) hrow options extraTags now
  refine ⟨h.positions.1, ?_, ?_, ?_, ?_⟩
  · rw [hrow]
    exact h.positions.2
  · intro cells hcells hsame
    rw [hactivity, answerActivity_single (hcells_ne hcells) (hcells.trans hrow)]
    -- cells beside placeholders are never read, so the columns have the same values
    have hbound := bound_eq_of_placeholders hquery hentries hsame
    exact rowActivity_eq_of_bound hbound rfl rfl rfl options base now
  · rintro before after first rest placeholder value rfl rfl hsplit hplaceholder
    obtain ⟨other, hother, hrearranged, hlength, hsame⟩ :=
      rowActivity_insert hquery hentries hrow hsplit hplaceholder value options base now
    refine ⟨other, hother, ?_⟩
    rw [answerActivity_single (by simp) hlength, hrearranged.baseTags, hactivity]
    exact hsame
  · intro others cells hothers hperm
    -- the columns bind the same in another order, which shows in signals and logs as a
    -- permutation
    obtain ⟨other, hother, hrearranged, hcells, hbound⟩ :=
      exists_rearranged_perm hquery hentries hrow hothers hperm
    refine ⟨other, hother, ?_⟩
    intro rearranged columns extras otherColumns otherExtras
    have hparts : activity = columns ++ extras :=
      hactivity.trans (h.rowActivity_parts options base now row)
    have hotherParts : rearranged = otherColumns ++ otherExtras := by
      show other.answerActivity options extraTags now (.rows [cells] none) = _
      rw [answerActivity_single (hcells_ne hcells)
        (hothers.symm.trans hrearranged.columnCount.symm), hrearranged.baseTags]
      exact (compiled_of_ofJson hother).rowActivity_parts options base now cells
    obtain ⟨hsignals, hlogs, hextras⟩ := parts_alike h hbound hrearranged.name
      hrearranged.hostname hrearranged.extras options base now
    refine ⟨hparts, hotherParts, ?_, hlogs, hextras.signals, hextras.logs⟩
    -- the extras agree exactly, and behind them a permutation of the columns stays one
    rw [hparts, hotherParts, Activity.signals_append, Activity.signals_append, List.map_append,
      List.map_append, hextras.signals]
    exact hsignals.append_right _

/-- The columns of a service check whose message reads a later column, after which there is a
position without a column and a tag. -/
def checkColumns : List Json :=
  [.object [("message", .string "load {a}"), ("name", .string "s"),
      ("status_map", .object [("up", .string "ok")]), ("type", .string "service_check")],
    .object [("name", .string "a"), ("type", .string "source")], .null,
    .object [("name", .string "t"), ("type", .string "tag")]]

/-- A definition with these columns and an entry of metadata. -/
def checkDefinition : Json :=
  .object [("columns", .array checkColumns),
    ("extras", .array [
      .object [("name", .string "x"), ("source", .string "a"), ("type", .string "metadata")]]),
    ("name", .string "q"), ("query", .string "q")]

/-- The service check is submitted with its message and its tag wherever its column stands. -/
theorem columns_bound_by_position_service_check_last :
    let row : Row := [.str "down", .str "high", .str "lost", .str "blue"]
    let others := checkColumns.drop 1 ++ checkColumns.take 1
    let cells := row.drop 1 ++ row.take 1
    ∃ query other,
      ofJson Options.default.compileOptions checkDefinition = .ok query ∧
      ofJson Options.default.compileOptions (checkDefinition.withColumns others) = .ok other ∧
      (query.answerActivity .default [] ⟨0, 0⟩ (.rows [row] none)).signals
        = [.check "s" .unknown ["t:blue"] none (some "load high"), .metadata "" "x" "high"] ∧
      ((other.answerActivity .default [] ⟨0, 0⟩ (.rows [cells] none)).signals.map
          Signal.withTagSet).Perm
        ((query.answerActivity .default [] ⟨0, 0⟩ (.rows [row] none)).signals.map
          Signal.withTagSet) := by
  intro row others cells
  obtain ⟨-, -, -, -, hreorder⟩ := @columns_bound_by_position Options.default.compileOptions
    checkDefinition _ rfl checkColumns rfl (by simp [checkColumns]) row rfl .default [] ⟨0, 0⟩
  have hperm : (others.zip cells).Perm (checkColumns.zip row) :=
    @List.perm_append_comm _ ((checkColumns.zip row).drop 1) ((checkColumns.zip row).take 1)
  obtain ⟨other, hother, -, -, hsignals, -⟩ := hreorder others cells rfl hperm
  exact ⟨_, other, rfl, hother, rfl, hsignals⟩

end Query

end RowSignals
