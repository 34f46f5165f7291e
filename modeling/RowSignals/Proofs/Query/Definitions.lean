import RowSignals.Proofs.Query.Names

/-!
# Checked definitions

What the check of a definition says, step by step. What an entry of a column says does not
depend on where it stands; the position only tells which entry an error is about.

* `Definition.Checked`, `Definition.ofJson_eq_ok_iff`: the steps of a check, as facts about its
  result.
* `Definition.Readable`, `Definition.entryField`: what an entry of a column says, wherever it
  stands; `columnsFrom_eq_ok_iff`: the entries that make the columns of a definition.
* `Definition.extrasFrom_congr`: nothing matters to extras but which names are taken.
-/

namespace RowSignals

/-! ## Entries -/

namespace Definition

/-- A text is read where the entry has a text under its key. -/
theorem textField_eq_ok_iff {key text : String} {owner : Owner} {entry : Json.Members} :
    textField key owner entry = .ok text ↔ present? entry key = some (.string text) := by
  unfold textField
  constructor
  · intro h
    split at h
    · cases h
    · rename_i hpresent
      cases h
      exact hpresent
    · cases h
  · intro h
    rw [h]

/-- A column is read where the entry has a name and a type that is known, and its parameters are
the rest of the entry. -/
theorem columnField_eq_ok_iff {query : String} {position : Nat} {entry : Json.Members}
    {field : Field} :
    columnField query position entry = .ok field ↔
      present? entry "name" = some (.string field.name) ∧
      present? entry "type" = some (.string field.kind) ∧
      (ColumnKind.ofName? field.kind).isSome ∧ field.params = paramsOf entry := by
  constructor
  · intro h
    obtain ⟨name, hname, h⟩ := bind_eq_ok.mp h
    obtain ⟨kind, hkind, h⟩ := bind_eq_ok.mp h
    split at h
    · cases h
    · rename_i hknown
      cases h
      refine ⟨textField_eq_ok_iff.mp hname, textField_eq_ok_iff.mp hkind, ?_, rfl⟩
      exact Option.isSome_iff_ne_none.mpr (by simpa using hknown)
  · rintro ⟨hname, hkind, hknown, hparams⟩
    refine bind_eq_ok.mpr ⟨_, textField_eq_ok_iff.mpr hname, ?_⟩
    refine bind_eq_ok.mpr ⟨_, textField_eq_ok_iff.mpr hkind, ?_⟩
    have hnone : (ColumnKind.ofName? field.kind).isNone = false := by simpa using hknown
    rw [hnone, ← hparams]
    rfl

/-- What an entry says does not depend on the query or on the position. -/
theorem columnEntry_eq_ok_iff {query : String} {position : Nat} {entry : Json}
    {column : Option Field} :
    columnEntry query position entry = .ok column ↔ columnEntry "" 0 entry = .ok column := by
  unfold columnEntry
  split
  · exact Iff.rfl
  · exact Iff.rfl
  · simp only [map_eq_ok, columnField_eq_ok_iff]
  · constructor
    · intro h
      cases h
    · intro h
      cases h

/-- The entry is a column, or leaves its position without one. -/
def Readable (entry : Json) : Prop :=
  ∃ column, columnEntry "" 0 entry = .ok column

/-- The field of an entry, if it has one. -/
def entryField (entry : Json) : Option Field :=
  (columnEntry "" 0 entry).toOption.join

/-- An entry that is fit for a column is read as its field, whatever its position. -/
theorem columnEntry_of_readable {entry : Json} (h : Readable entry) (query : String)
    (position : Nat) : columnEntry query position entry = .ok (entryField entry) := by
  obtain ⟨column, hcolumn⟩ := h
  rw [columnEntry_eq_ok_iff, entryField, hcolumn]
  rfl

theorem readable_of_columnEntry {query : String} {position : Nat} {entry : Json}
    {column : Option Field} (h : columnEntry query position entry = .ok column) :
    Readable entry ∧ entryField entry = column := by
  have h := columnEntry_eq_ok_iff.mp h
  refine ⟨⟨column, h⟩, ?_⟩
  rw [entryField, h]
  rfl

/-! ## The columns of a definition -/

theorem register_of_not_mem {names : Names} {name query : String} {place : Place}
    (h : name ∉ names.map Prod.fst) :
    register names name query place = .ok ((name, place) :: names) := by
  have hnone : names.lookup name = none := by
    refine List.lookup_eq_none_iff.mpr fun known hknown => ?_
    have hne : name ≠ known.1 := fun heq => h (heq ▸ List.mem_map_of_mem hknown)
    simpa using hne
  rw [register, hnone]

/-- Entries make the columns of a definition if all of them can be read and their names are
distinct and new. -/
theorem columnsFrom_eq_ok_iff {query : String} {names : Names} {position : Nat}
    {entries : List Json} {columns : List (Option Field)} :
    (∃ others, columnsFrom query names position entries = .ok (columns, others)) ↔
      (∀ entry ∈ entries, Readable entry) ∧ columns = entries.map entryField ∧
        (fieldNames columns).Nodup ∧ ∀ n ∈ fieldNames columns, n ∉ names.map Prod.fst := by
  induction entries generalizing names position columns with
  | nil =>
    constructor
    · rintro ⟨others, h⟩
      cases h
      exact ⟨by simp, rfl, List.nodup_nil, by simp [fieldNames]⟩
    · rintro ⟨-, rfl, -⟩
      exact ⟨names, rfl⟩
  | cons entry entries ih =>
    constructor
    · rintro ⟨others, h⟩
      obtain ⟨column, hcolumn, h⟩ := bind_eq_ok.mp h
      obtain ⟨hreadable, hfield⟩ := readable_of_columnEntry hcolumn
      rw [List.map_cons, hfield]
      cases column with
      | none =>
        -- a position without a column declares no name
        obtain ⟨_, ⟨rfl⟩, h⟩ := bind_eq_ok.mp h
        obtain ⟨⟨rest, final⟩, hrest, h⟩ := bind_eq_ok.mp h
        cases h
        obtain ⟨hentries, rfl, hnodup, hnew⟩ := ih.mp ⟨_, hrest⟩
        exact ⟨List.forall_mem_cons.mpr ⟨hreadable, hentries⟩, rfl, hnodup, hnew⟩
      | some field =>
        obtain ⟨more, hmore, h⟩ := bind_eq_ok.mp h
        obtain ⟨⟨rest, final⟩, hrest, h⟩ := bind_eq_ok.mp h
        cases h
        obtain ⟨hentries, rfl, hnodup, hnew⟩ := ih.mp ⟨_, hrest⟩
        -- the name was new, and the entries behind it repeat neither it nor the names before
        obtain ⟨hfresh, rfl⟩ := register_eq_ok hmore
        refine ⟨List.forall_mem_cons.mpr ⟨hreadable, hentries⟩, rfl, ?_⟩
        have hcons : fieldNames (some field :: entries.map entryField)
            = field.name :: fieldNames (entries.map entryField) := rfl
        rw [hcons]
        refine ⟨List.nodup_cons.mpr ⟨?_, hnodup⟩, List.forall_mem_cons.mpr ⟨hfresh, ?_⟩⟩
        · intro hmem
          exact hnew _ hmem List.mem_cons_self
        · intro n hn hknown
          exact hnew n hn (List.mem_cons_of_mem _ hknown)
    · rintro ⟨hreadable, rfl, hnodup, hnew⟩
      obtain ⟨hentry, hentries⟩ := List.forall_mem_cons.mp hreadable
      have hcolumn := columnEntry_of_readable hentry query position
      cases hfield : entryField entry with
      | none =>
        rw [List.map_cons, hfield] at hnodup hnew ⊢
        rw [hfield] at hcolumn
        obtain ⟨others, hothers⟩ := (@ih names (position + 1) _).mpr ⟨hentries, rfl, hnodup, hnew⟩
        refine ⟨others, bind_eq_ok.mpr ⟨_, hcolumn, ?_⟩⟩
        exact bind_eq_ok.mpr ⟨names, rfl, bind_eq_ok.mpr ⟨_, hothers, rfl⟩⟩
      | some field =>
        rw [List.map_cons, hfield] at hnodup hnew ⊢
        rw [hfield] at hcolumn
        have hcons : fieldNames (some field :: entries.map entryField)
            = field.name :: fieldNames (entries.map entryField) := rfl
        rw [hcons] at hnodup hnew
        obtain ⟨hfresh, hnodup⟩ := List.nodup_cons.mp hnodup
        obtain ⟨hunknown, hrest⟩ := List.forall_mem_cons.mp hnew
        -- the entries behind it have its name among those to avoid
        have hlater : ∀ n ∈ fieldNames (entries.map entryField),
            n ∉ ((field.name, Place.column position) :: names).map Prod.fst := by
          intro n hn hmem
          rcases List.mem_cons.mp hmem with rfl | hmem
          · exact hfresh hn
          · exact hrest n hn hmem
        obtain ⟨others, hothers⟩ :=
          (@ih ((field.name, .column position) :: names) (position + 1) _).mpr
            ⟨hentries, rfl, hnodup, hlater⟩
        refine ⟨others, bind_eq_ok.mpr ⟨_, hcolumn, ?_⟩⟩
        exact bind_eq_ok.mpr ⟨_, register_of_not_mem hunknown, bind_eq_ok.mpr ⟨_, hothers, rfl⟩⟩

/-! ## The extras of a definition -/

/-- The names of extras must be new, and nothing else about the names before them matters. -/
theorem extrasFrom_congr {query : String} {names others : Names} {position : Nat}
    {entries : List Json} {extras : List Field}
    (hsame : ∀ n, n ∈ others.map Prod.fst ↔ n ∈ names.map Prod.fst)
    (h : extrasFrom query names position entries = .ok extras) :
    extrasFrom query others position entries = .ok extras := by
  induction entries generalizing names others position extras with
  | nil => exact h
  | cons entry entries ih =>
    obtain ⟨field, hfield, h⟩ := bind_eq_ok.mp h
    obtain ⟨more, hmore, h⟩ := bind_eq_ok.mp h
    obtain ⟨rest, hrest, h⟩ := bind_eq_ok.mp h
    cases h
    obtain ⟨hnew, rfl⟩ := register_eq_ok hmore
    have hnew : field.name ∉ others.map Prod.fst := fun hmem => hnew ((hsame _).mp hmem)
    refine bind_eq_ok.mpr ⟨field, hfield, ?_⟩
    refine bind_eq_ok.mpr ⟨_, register_of_not_mem hnew, ?_⟩
    refine bind_eq_ok.mpr ⟨rest, ih (fun n => ?_) hrest, rfl⟩
    simp only [List.map_cons, List.mem_cons, hsame]

theorem extraField_kind {query : String} {position : Nat} {entry : Json} {field : Field}
    (h : extraField query position entry = .ok field) :
    (ExtraKind.ofName? field.kind).isSome := by
  unfold extraField at h
  split at h
  · obtain ⟨name, -, h⟩ := bind_eq_ok.mp h
    obtain ⟨kind, -, h⟩ := bind_eq_ok.mp h
    split at h
    · cases h
    · rename_i hkind
      obtain ⟨_, -, h⟩ := bind_eq_ok.mp h
      cases h
      rw [hkind]
      rfl
    · rename_i hkind
      cases h
      rw [hkind]
      rfl
  · cases h

/-- Every extra of a definition is of a kind of extras. -/
theorem extrasFrom_kinds {query : String} {names : Names} {position : Nat} {entries : List Json}
    {extras : List Field} (h : extrasFrom query names position entries = .ok extras) :
    ∀ field ∈ extras, (ExtraKind.ofName? field.kind).isSome := by
  induction entries generalizing names position extras with
  | nil =>
    cases h
    simp
  | cons entry entries ih =>
    obtain ⟨field, hfield, h⟩ := bind_eq_ok.mp h
    obtain ⟨more, -, h⟩ := bind_eq_ok.mp h
    obtain ⟨rest, hrest, h⟩ := bind_eq_ok.mp h
    cases h
    exact List.forall_mem_cons.mpr ⟨extraField_kind hfield, ih hrest⟩

/-! ## The steps of a check -/

/-- What the steps of a check say about its result. -/
structure Checked (form : QueryForm) (members : Json.Members) (definition : Definition) :
    Prop where
  name : nameOf members = .ok definition.name
  query : queryOf form definition.name members = .ok definition.query
  tags : tagsOf definition.name members = .ok definition.tags
  interval : intervalOf definition.name members = .ok definition.interval
  metricPrefix : metricPrefixOf definition.name members = .ok definition.metricPrefix
  hostname : hostnameOf definition.name members = .ok definition.hostname
  parts : ∃ columns names extras,
    columnEntries definition.name members = .ok columns ∧
    columnsFrom definition.name [] 1 columns = .ok (definition.columns, names) ∧
    extraEntries definition.name members = .ok extras ∧
    extrasFrom definition.name names 1 extras = .ok definition.extras

/-- A definition is read from an object that passes all checks. -/
theorem ofJson_eq_ok_iff {form : QueryForm} {raw : Json} {definition : Definition} :
    ofJson form raw = .ok definition ↔
      ∃ members : Json.Members, raw = .object members ∧ Checked form members definition := by
  constructor
  · intro h
    unfold ofJson at h
    split at h
    · rename_i members
      -- One check after the other, in the order in which their errors come first.
      obtain ⟨name, hname, h⟩ := bind_eq_ok.mp h
      obtain ⟨query, hquery, h⟩ := bind_eq_ok.mp h
      obtain ⟨columns, hcolumns, h⟩ := bind_eq_ok.mp h
      obtain ⟨tags, htags, h⟩ := bind_eq_ok.mp h
      obtain ⟨interval, hinterval, h⟩ := bind_eq_ok.mp h
      obtain ⟨metricPrefix, hmetricPrefix, h⟩ := bind_eq_ok.mp h
      obtain ⟨hostname, hhostname, h⟩ := bind_eq_ok.mp h
      obtain ⟨⟨fields, names⟩, hfields, h⟩ := bind_eq_ok.mp h
      obtain ⟨entries, hentries, h⟩ := bind_eq_ok.mp h
      obtain ⟨extras, hextras, h⟩ := bind_eq_ok.mp h
      cases h
      exact ⟨members, rfl, hname, hquery, htags, hinterval, hmetricPrefix, hhostname, columns,
        names, entries, hcolumns, hfields, hentries, hextras⟩
    · cases h
  · rintro ⟨members, rfl, h⟩
    obtain ⟨columns, names, extras, hcolumns, hfields, hentries, hextras⟩ := h.parts
    refine bind_eq_ok.mpr ⟨_, h.name, bind_eq_ok.mpr ⟨_, h.query, ?_⟩⟩
    refine bind_eq_ok.mpr ⟨_, hcolumns, bind_eq_ok.mpr ⟨_, h.tags, ?_⟩⟩
    refine bind_eq_ok.mpr ⟨_, h.interval, bind_eq_ok.mpr ⟨_, h.metricPrefix, ?_⟩⟩
    refine bind_eq_ok.mpr ⟨_, h.hostname, bind_eq_ok.mpr ⟨_, hfields, ?_⟩⟩
    exact bind_eq_ok.mpr ⟨_, hentries, bind_eq_ok.mpr ⟨_, hextras, rfl⟩⟩

/-- The extras of a checked definition have types that are known. -/
theorem Checked.extraKinds {form : QueryForm} {members : Json.Members} {definition : Definition}
    (h : Checked form members definition) :
    ∀ field ∈ definition.extras, (ExtraKind.ofName? field.kind).isSome := by
  obtain ⟨_, _, _, -, -, -, hextras⟩ := h.parts
  exact extrasFrom_kinds hextras

end Definition

end RowSignals
