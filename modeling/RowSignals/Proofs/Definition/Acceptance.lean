import RowSignals.Proofs.Definition.Documented

/-!
# Acceptable definitions

A definition is accepted exactly when each of its parts is of the documented form and no two
columns or extras have the same name, and then nothing that it says is lost.

* `Definition.Formed`, `Definition.Acceptable`: what a mapping must say to be accepted.
* `Definition.Describes`: what is kept of an accepted mapping.
* `Definition.ofJson_eq_ok_iff_describes`: the check against the definition that it returns.
* `Definition.acceptable_iff`: the acceptable mappings are those that describe a definition.
-/

namespace RowSignals

namespace Definition

/-! ## The entries of columns and extras -/

/-- What the reader takes as a column stands for one. -/
theorem readable_and_entryField_iff {entry : Json} {column : Option Field} :
    Readable entry ∧ entryField entry = column ↔ IsColumn entry column := by
  rw [← @columnEntry_eq_ok_iff_isColumn "" 0]
  constructor
  · rintro ⟨hreadable, rfl⟩
    exact columnEntry_of_readable hreadable "" 0
  · exact readable_of_columnEntry

/-- Entries make columns one by one; their names must be distinct and new. -/
theorem columnsFrom_eq_ok_iff_forall₂ {query : String} {names : Names} {position : Nat}
    {entries : List Json} {columns : List (Option Field)} :
    (∃ others, columnsFrom query names position entries = .ok (columns, others)) ↔
      List.Forall₂ IsColumn entries columns ∧ (fieldNames columns).Nodup ∧
        ∀ n ∈ fieldNames columns, n ∉ names.map Prod.fst := by
  -- entries that can be read one by one stand for the columns that they say
  have hforall : (∀ entry ∈ entries, Readable entry) ∧ columns = entries.map entryField ↔
      List.Forall₂ IsColumn entries columns := by
    induction entries generalizing columns with
    | nil => simp
    | cons entry entries ih =>
      cases columns with
      | nil => simp
      | cons column columns =>
        rw [List.forall₂_cons, ← readable_and_entryField_iff, ← ih, List.forall_mem_cons,
          List.map_cons, List.cons.injEq]
        constructor
        · rintro ⟨⟨hentry, hentries⟩, rfl, rfl⟩
          exact ⟨⟨hentry, rfl⟩, hentries, rfl⟩
        · rintro ⟨⟨hentry, rfl⟩, hentries, rfl⟩
          exact ⟨⟨hentry, hentries⟩, rfl, rfl⟩
  rw [columnsFrom_eq_ok_iff, ← and_assoc, hforall]

/-- Entries make extras one by one; their names must be distinct and new. -/
theorem extrasFrom_eq_ok_iff_forall₂ {query : String} {names : Names} {position : Nat}
    {entries : List Json} {extras : List Field} :
    extrasFrom query names position entries = .ok extras ↔
      List.Forall₂ IsExtra entries extras ∧ (extras.map (·.name)).Nodup ∧
        ∀ field ∈ extras, field.name ∉ names.map Prod.fst := by
  induction entries generalizing names position extras with
  | nil =>
    constructor
    · intro h
      cases h
      exact ⟨.nil, List.nodup_nil, by simp⟩
    · rintro ⟨h, -⟩
      cases h
      rfl
  | cons entry entries ih =>
    constructor
    · intro h
      obtain ⟨field, hfield, h⟩ := bind_eq_ok.mp h
      obtain ⟨others, hothers, h⟩ := bind_eq_ok.mp h
      obtain ⟨rest, hrest, h⟩ := bind_eq_ok.mp h
      cases h
      obtain ⟨hnew, rfl⟩ := register_eq_ok hothers
      -- the rest is new to the names before it, of which the first is one
      obtain ⟨hforall, hnodup, hlater⟩ := ih.mp hrest
      refine ⟨.cons (extraField_eq_ok_iff_isExtra.mp hfield) hforall, ?_, ?_⟩
      · refine List.nodup_cons.mpr ⟨fun hmem => ?_, hnodup⟩
        obtain ⟨other, hother, heq⟩ := List.mem_map.mp hmem
        exact hlater other hother (heq ▸ List.mem_cons_self)
      · refine List.forall_mem_cons.mpr ⟨hnew, fun other hother hmem => ?_⟩
        exact hlater other hother (List.mem_cons_of_mem _ hmem)
    · rintro ⟨hforall, hnodup, hlater⟩
      cases hforall with
      | @cons _ field _ rest hfield hrest =>
        obtain ⟨hunique, hnodup⟩ := List.nodup_cons.mp hnodup
        obtain ⟨hnew, hlater⟩ := List.forall_mem_cons.mp hlater
        refine bind_eq_ok.mpr ⟨field, extraField_eq_ok_iff_isExtra.mpr hfield, ?_⟩
        refine bind_eq_ok.mpr ⟨_, register_of_not_mem hnew, ?_⟩
        refine bind_eq_ok.mpr ⟨rest, ih.mpr ⟨hrest, hnodup, fun other hother hmem => ?_⟩, rfl⟩
        rcases List.mem_cons.mp hmem with heq | hmem
        · exact hunique (List.mem_map.mpr ⟨other, hother, heq⟩)
        · exact hlater other hother hmem

/-! ## Names of entries -/

theorem IsColumn.entryName?_eq {entry : Json} {column : Option Field} (h : IsColumn entry column) :
    entryName? entry = column.map (·.name) := by
  cases h with
  | null => rfl
  | empty => rfl
  | field hname _ _ _ => simp [entryName?, Json.member?, Json.members?, hname, Json.string?]

theorem IsExtra.entryName?_eq {entry : Json} {field : Field} (h : IsExtra entry field) :
    entryName? entry = some field.name := by
  obtain ⟨members, rfl, hmembers⟩ := h
  simp [entryName?, Json.member?, Json.members?, hmembers.name, Json.string?]

/-- Entries that each stand for something stand for a list of it. -/
theorem forall_mem_exists_iff {α β : Type} {R : α → β → Prop} {entries : List α} :
    (∀ entry ∈ entries, ∃ b, R entry b) ↔ ∃ bs, List.Forall₂ R entries bs := by
  constructor
  · intro h
    induction entries with
    | nil => exact ⟨[], .nil⟩
    | cons entry entries ih =>
      obtain ⟨⟨b, hb⟩, hentries⟩ := List.forall_mem_cons.mp h
      obtain ⟨bs, hbs⟩ := ih hentries
      exact ⟨b :: bs, .cons hb hbs⟩
  · rintro ⟨bs, h⟩
    induction h with
    | nil => simp
    | cons hb _ ih => exact List.forall_mem_cons.mpr ⟨⟨_, hb⟩, ih⟩

/-- Every item of a list stands for one of the other. -/
theorem exists_mem_of_forall₂ {α β : Type} {R : α → β → Prop} {items : List α} {others : List β}
    (h : List.Forall₂ R items others) {a : α} (ha : a ∈ items) : ∃ b ∈ others, R a b := by
  induction h with
  | nil => cases ha
  | cons hfirst _ ih =>
    rcases List.mem_cons.mp ha with rfl | ha
    · exact ⟨_, List.mem_cons_self, hfirst⟩
    · obtain ⟨b, hb, hab⟩ := ih ha
      exact ⟨b, List.mem_cons_of_mem _ hb, hab⟩

/-- The names of the entries are those of the columns. -/
theorem columnNames_of_entries {entries : List Json} {columns : List (Option Field)}
    (h : List.Forall₂ IsColumn entries columns) :
    entries.filterMap entryName? = fieldNames columns := by
  induction h with
  | nil => rfl
  | @cons entry column entries columns hcolumn _ ih =>
    rw [List.filterMap_cons, hcolumn.entryName?_eq, ih]
    cases column <;> rfl

/-- The names of the entries are those of the extras. -/
theorem extraNames_of_entries {entries : List Json} {extras : List Field}
    (h : List.Forall₂ IsExtra entries extras) :
    entries.filterMap entryName? = extras.map (·.name) := by
  induction h with
  | nil => rfl
  | cons hextra _ ih => rw [List.filterMap_cons, hextra.entryName?_eq, ih, List.map_cons]

/-! ## What a mapping must say -/

/-- A mapping all of whose parts are of the documented form. -/
structure Formed (form : QueryForm) (members : Json.Members) : Prop where
  name : ∃ name, members.get? "name" = some (.string name)
  query : ∃ query, members.get? "query" = some query ∧ IsQuestion form query
  columns : ∃ entries, members.get? "columns" = some (.array entries)
  tags : members.Absent "tags" ∨ ∃ tags, members.get? "tags" = some (.ofStrings tags)
  interval : members.Absent "collection_interval" ∨
    ∃ number, members.get? "collection_interval" = some (.number number) ∧ number.IsPositive
  metricPrefix : members.Absent "metric_prefix" ∨
    ∃ text, members.get? "metric_prefix" = some (.string text) ∧ text ≠ ""
  hostname : members.Absent "hostname" ∨ ∃ text, members.get? "hostname" = some (.string text)
  extras : members.Absent "extras" ∨ ∃ entries, members.get? "extras" = some (.array entries)
  eachColumn : ∀ entry ∈ members.itemsAt "columns", ∃ column, IsColumn entry column
  eachExtra : ∀ entry ∈ members.itemsAt "extras", ∃ field, IsExtra entry field

/-- No two columns or extras have the same name. -/
def DistinctNames (members : Json.Members) : Prop :=
  ((members.itemsAt "columns" ++ members.itemsAt "extras").filterMap entryName?).Nodup

/-- A mapping that is accepted as a definition. -/
structure Acceptable (form : QueryForm) (members : Json.Members) : Prop
    extends Formed form members where
  names : DistinctNames members

/-- What is kept of a mapping: every field of the query, and an entry for each column and each
extra, in their order. -/
structure Describes (form : QueryForm) (members : Json.Members) (definition : Definition) :
    Prop where
  name : members.get? "name" = some (.string definition.name)
  query : members.get? "query" = some definition.query ∧ IsQuestion form definition.query
  columns : List.Forall₂ IsColumn (members.itemsAt "columns") definition.columns
  hasColumns : ∃ entries, members.get? "columns" = some (.array entries)
  tags : members.Absent "tags" ∧ definition.tags = [] ∨
    members.get? "tags" = some (.ofStrings definition.tags)
  interval : members.Absent "collection_interval" ∧ definition.interval = none ∨
    ∃ number, members.get? "collection_interval" = some (.number number) ∧ number.IsPositive ∧
      definition.interval = some number.toFloat
  metricPrefix : members.Absent "metric_prefix" ∧ definition.metricPrefix = none ∨
    ∃ text, members.get? "metric_prefix" = some (.string text) ∧ text ≠ "" ∧
      definition.metricPrefix = some text
  hostname : members.Absent "hostname" ∧ definition.hostname = none ∨
    ∃ text, members.get? "hostname" = some (.string text) ∧ definition.hostname = some text
  extras : List.Forall₂ IsExtra (members.itemsAt "extras") definition.extras
  mayHaveExtras : members.Absent "extras" ∨
    ∃ entries, members.get? "extras" = some (.array entries)
  names : (definition.columnNames ++ definition.extraNames).Nodup

section
variable {form : QueryForm} {members : Json.Members} {definition : Definition}

/-! ### The steps of a check of documented forms -/

namespace Formed

/-- A mapping of the documented form passes the check of its name, and likewise each of the
checks below. -/
theorem nameOf_ok (h : Formed form members) : ∃ name, nameOf members = .ok name :=
  h.name.imp fun _ => nameOf_eq_ok_iff.mpr

theorem queryOf_ok (h : Formed form members) (name : String) :
    ∃ query, queryOf form name members = .ok query :=
  h.query.imp fun _ => queryOf_eq_ok_iff.mpr

theorem columnEntries_ok (h : Formed form members) (name : String) :
    ∃ entries, columnEntries name members = .ok entries :=
  h.columns.imp fun _ => columnEntries_eq_ok_iff.mpr

theorem tagsOf_ok (h : Formed form members) (name : String) :
    ∃ tags, tagsOf name members = .ok tags := by
  rcases h.tags with habsent | ⟨tags, htags⟩
  · exact ⟨[], tagsOf_eq_ok_iff.mpr (.inl ⟨habsent, rfl⟩)⟩
  · exact ⟨tags, tagsOf_eq_ok_iff.mpr (.inr htags)⟩

theorem intervalOf_ok (h : Formed form members) (name : String) :
    ∃ interval, intervalOf name members = .ok interval := by
  rcases h.interval with habsent | ⟨number, hnumber, hpos⟩
  · exact ⟨none, intervalOf_eq_ok_iff.mpr (.inl ⟨habsent, rfl⟩)⟩
  · exact ⟨_, intervalOf_eq_ok_iff.mpr (.inr ⟨number, hnumber, hpos, rfl⟩)⟩

theorem metricPrefixOf_ok (h : Formed form members) (name : String) :
    ∃ metricPrefix, metricPrefixOf name members = .ok metricPrefix := by
  rcases h.metricPrefix with habsent | ⟨text, htext, hne⟩
  · exact ⟨none, metricPrefixOf_eq_ok_iff.mpr (.inl ⟨habsent, rfl⟩)⟩
  · exact ⟨_, metricPrefixOf_eq_ok_iff.mpr (.inr ⟨text, htext, hne, rfl⟩)⟩

theorem hostnameOf_ok (h : Formed form members) (name : String) :
    ∃ hostname, hostnameOf name members = .ok hostname := by
  rcases h.hostname with habsent | ⟨text, htext⟩
  · exact ⟨none, hostnameOf_eq_ok_iff.mpr (.inl ⟨habsent, rfl⟩)⟩
  · exact ⟨_, hostnameOf_eq_ok_iff.mpr (.inr ⟨text, htext, rfl⟩)⟩

theorem extraEntries_ok (h : Formed form members) (name : String) :
    ∃ entries, extraEntries name members = .ok entries := by
  rcases h.extras with habsent | ⟨entries, hentries⟩
  · exact ⟨[], extraEntries_eq_ok_iff.mpr (.inl ⟨habsent, rfl⟩)⟩
  · exact ⟨entries, extraEntries_eq_ok_iff.mpr (.inr hentries)⟩

end Formed

/-! ### The check -/

/-- The columns and extras of a check: no name of an extra is one of a column. -/
theorem names_nodup_iff {columns : List (Option Field)} {extras : List Field} {names : Names}
    (hnames : ∀ n, n ∈ names.map Prod.fst ↔ n ∈ fieldNames columns) :
    (fieldNames columns ++ extras.map (·.name)).Nodup ↔ (fieldNames columns).Nodup ∧
      (extras.map (·.name)).Nodup ∧ ∀ field ∈ extras, field.name ∉ names.map Prod.fst := by
  rw [List.nodup_append']
  refine and_congr_right fun _ => and_congr_right fun _ => ?_
  constructor
  · intro h field hfield hmem
    exact h ((hnames _).mp hmem) (List.mem_map_of_mem hfield)
  · intro h n hcolumn hextra
    obtain ⟨field, hfield, rfl⟩ := List.mem_map.mp hextra
    exact h field hfield ((hnames _).mpr hcolumn)

/-- A definition that was checked describes its mapping. -/
theorem Checked.describes (h : Checked form members definition) :
    Describes form members definition := by
  obtain ⟨columns, names, extras, hcolumns, hfields, hextras, hfinal⟩ := h.parts
  have hcolumnItems := itemsAt_of_columnEntries hcolumns
  have hextraItems := itemsAt_of_extraEntries hextras
  have hcolumns := columnEntries_eq_ok_iff.mp hcolumns
  have hextras := extraEntries_eq_ok_iff.mp hextras
  obtain ⟨hforall, hcolumnNames, -⟩ := columnsFrom_eq_ok_iff_forall₂.mp ⟨names, hfields⟩
  obtain ⟨hextraForall, hextraNames, hnew⟩ := extrasFrom_eq_ok_iff_forall₂.mp hfinal
  have hnames (n : String) : n ∈ names.map Prod.fst ↔ n ∈ fieldNames definition.columns := by
    simp [(columnsFrom_names hfields List.nodup_nil).1]
  exact {
    name := nameOf_eq_ok_iff.mp h.name
    query := queryOf_eq_ok_iff.mp h.query
    columns := hcolumnItems ▸ hforall
    hasColumns := ⟨columns, hcolumns⟩
    tags := tagsOf_eq_ok_iff.mp h.tags
    interval := intervalOf_eq_ok_iff.mp h.interval
    metricPrefix := metricPrefixOf_eq_ok_iff.mp h.metricPrefix
    hostname := hostnameOf_eq_ok_iff.mp h.hostname
    extras := hextraItems ▸ hextraForall
    mayHaveExtras := hextras.imp And.left fun hlist => ⟨extras, hlist⟩
    names := (names_nodup_iff hnames).mpr ⟨hcolumnNames, hextraNames, hnew⟩ }

theorem Describes.checked (h : Describes form members definition) :
    Checked form members definition := by
  obtain ⟨columns, hcolumns⟩ := h.hasColumns
  have hcolumnItems := Json.Members.itemsAt_of_get? hcolumns
  have hextraItems : members.Absent "extras" ∧ members.itemsAt "extras" = [] ∨
      members.get? "extras" = some (.array (members.itemsAt "extras")) := by
    rcases h.mayHaveExtras with habsent | ⟨entries, hentries⟩
    · exact .inl ⟨habsent, Json.Members.itemsAt_of_absent habsent⟩
    · refine .inr ?_
      rwa [Json.Members.itemsAt_of_get? hentries]
  -- The names of the columns are distinct among themselves, and those of the extras from them.
  obtain ⟨names, hfields⟩ : ∃ names, columnsFrom definition.name [] 1 columns
      = .ok (definition.columns, names) := by
    refine columnsFrom_eq_ok_iff_forall₂.mpr ⟨hcolumnItems ▸ h.columns, ?_, by simp⟩
    exact h.names.of_append_left
  have hnames (n : String) : n ∈ names.map Prod.fst ↔ n ∈ fieldNames definition.columns := by
    simp [(columnsFrom_names hfields List.nodup_nil).1]
  have hnodup := (names_nodup_iff hnames).mp h.names
  exact {
    name := nameOf_eq_ok_iff.mpr h.name
    query := queryOf_eq_ok_iff.mpr h.query
    tags := tagsOf_eq_ok_iff.mpr h.tags
    interval := intervalOf_eq_ok_iff.mpr h.interval
    metricPrefix := metricPrefixOf_eq_ok_iff.mpr h.metricPrefix
    hostname := hostnameOf_eq_ok_iff.mpr h.hostname
    parts := ⟨columns, names, members.itemsAt "extras", columnEntries_eq_ok_iff.mpr hcolumns,
      hfields, extraEntries_eq_ok_iff.mpr hextraItems,
      extrasFrom_eq_ok_iff_forall₂.mpr ⟨h.extras, hnodup.2⟩⟩ }

/-- The check returns the definition that a mapping describes. -/
theorem ofJson_eq_ok_iff_describes {raw : Json} : ofJson form raw = .ok definition ↔
    ∃ members : Json.Members, raw = .object members ∧ Describes form members definition := by
  rw [ofJson_eq_ok_iff]
  refine exists_congr fun members => and_congr_right fun _ => ?_
  exact ⟨Checked.describes, Describes.checked⟩

/-- Whether the names of a mapping are distinct, by the names of its columns and extras. -/
theorem distinctNames_iff {columns : List (Option Field)} {extras : List Field}
    (hcolumns : List.Forall₂ IsColumn (members.itemsAt "columns") columns)
    (hextras : List.Forall₂ IsExtra (members.itemsAt "extras") extras) :
    DistinctNames members ↔ (fieldNames columns ++ extras.map (·.name)).Nodup := by
  rw [DistinctNames, List.filterMap_append, columnNames_of_entries hcolumns,
    extraNames_of_entries hextras]

/-- The acceptable mappings are those that describe a definition. -/
theorem acceptable_iff :
    Acceptable form members ↔ ∃ definition, Describes form members definition := by
  constructor
  · intro h
    -- Each requirement by itself has a value that it describes; the values together are the
    -- definition.
    obtain ⟨name, hname⟩ := h.name
    obtain ⟨query, hquery⟩ := h.query
    obtain ⟨columns, hcolumns⟩ := forall_mem_exists_iff.mp h.eachColumn
    obtain ⟨extras, hextras⟩ := forall_mem_exists_iff.mp h.eachExtra
    obtain ⟨tags, htags⟩ := h.tagsOf_ok name
    obtain ⟨interval, hinterval⟩ := h.intervalOf_ok name
    obtain ⟨metricPrefix, hmetricPrefix⟩ := h.metricPrefixOf_ok name
    obtain ⟨hostname, hhostname⟩ := h.hostnameOf_ok name
    refine ⟨⟨name, query, columns, extras, tags, interval, metricPrefix, hostname⟩, ?_⟩
    exact {
      name := hname
      query := hquery
      columns := hcolumns
      hasColumns := h.columns
      tags := tagsOf_eq_ok_iff.mp htags
      interval := intervalOf_eq_ok_iff.mp hinterval
      metricPrefix := metricPrefixOf_eq_ok_iff.mp hmetricPrefix
      hostname := hostnameOf_eq_ok_iff.mp hhostname
      extras := hextras
      mayHaveExtras := h.extras
      names := (distinctNames_iff hcolumns hextras).mp h.names }
  · rintro ⟨definition, h⟩
    exact {
      name := ⟨_, h.name⟩
      query := ⟨_, h.query⟩
      columns := h.hasColumns
      tags := h.tags.imp And.left fun htags => ⟨_, htags⟩
      interval := h.interval.imp And.left fun ⟨number, hget, hpos, _⟩ => ⟨number, hget, hpos⟩
      metricPrefix := h.metricPrefix.imp And.left fun ⟨text, hget, hne, _⟩ => ⟨text, hget, hne⟩
      hostname := h.hostname.imp And.left fun ⟨text, hget, _⟩ => ⟨text, hget⟩
      extras := h.mayHaveExtras
      eachColumn := forall_mem_exists_iff.mpr ⟨_, h.columns⟩
      eachExtra := forall_mem_exists_iff.mpr ⟨_, h.extras⟩
      names := (distinctNames_iff h.columns h.extras).mpr h.names }

end

end Definition

end RowSignals
