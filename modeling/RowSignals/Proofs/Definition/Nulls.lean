import RowSignals.Proofs.Definition.Acceptance
import RowSignals.Proofs.Transformer.Nulls

/-!
# Definitions without nulls

A null in the mapping of a query, of a column, of an extra or of a match item says as much as no
entry at all. So the nulls of a raw definition may be dropped. The one exception is a null
`expression` of an extra without a type, from which a type is inferred.

* `Json.withoutNullEntries`: a raw definition without nulls.
* `Definition.ofJson_map_withoutNulls`: its check, with the same errors.
* `Definition.refused_withoutNullEntries`: the exception.
-/

namespace RowSignals

/-! ## Dropping nulls -/

/-- What a column of a kind says without nulls, those of match items included. -/
def Params.columnWithoutNulls (kind : Option String) (params : Params) : Params :=
  Json.Members.withoutNulls (if kind = some "match" then params.withoutItemNulls else params)

/-- The entry of a column without nulls. -/
def Json.columnWithoutNulls : Json → Json
  | .object entry =>
    .object (Params.columnWithoutNulls ((Members.present? entry "type").bind Json.string?) entry)
  | value => value

/-- The members of a definition without nulls in them, their columns and their extras. -/
def Json.Members.withoutNullEntries (members : Members) : Members :=
  ((members.updateAt "columns" (mapItems columnWithoutNulls)).updateAt "extras"
    (mapItems Json.withoutNulls)).withoutNulls

/-- A raw definition without nulls in its mapping and those of its columns and extras. -/
def Json.withoutNullEntries : Json → Json
  | .object members => .object (Members.withoutNullEntries members)
  | value => value

/-- The entries of a list in a raw definition. -/
def Json.entriesAt (key : String) : Json → List Json
  | .object members => Members.itemsAt members key
  | _ => []

/-- A column without nulls in its parameters. -/
def Field.columnWithoutNulls (field : Field) : Field :=
  { field with params := field.params.columnWithoutNulls (some field.kind) }

/-- An extra without nulls in its parameters. -/
def Field.withoutNulls (field : Field) : Field :=
  { field with params := Json.Members.withoutNulls field.params }

/-- A definition without nulls in its parameters. -/
def Definition.withoutNulls (definition : Definition) : Definition :=
  { definition with
    columns := definition.columns.map (Option.map Field.columnWithoutNulls)
    extras := definition.extras.map Field.withoutNulls }

/-- Outside of its items a column without nulls has what it had. -/
theorem Params.present?_columnWithoutNulls (kind : Option String) (params : Params) {key : String}
    (h : key ≠ "items") :
    Json.Members.present? (params.columnWithoutNulls kind) key
      = Json.Members.present? params key := by
  rw [columnWithoutNulls, Json.Members.present?_withoutNulls]
  split
  · exact Json.Members.present?_updateAt_of_ne h _ params
  · rfl

namespace Definition

open Json (Members)

/-! ## Columns and extras -/

/-- Dropping nulls and taking the parameters can be exchanged. -/
theorem paramsOf_withoutNulls (entry : Members) :
    paramsOf entry.withoutNulls = Members.withoutNulls (paramsOf entry) :=
  Members.filter_withoutNulls (fun key => key != "name" && key != "type") entry

theorem paramsOf_columnWithoutNulls (kind : Option String) (entry : Members) :
    paramsOf (Params.columnWithoutNulls kind entry)
      = Params.columnWithoutNulls kind (paramsOf entry) := by
  unfold Params.columnWithoutNulls
  rw [paramsOf_withoutNulls]
  split
  · exact congrArg Members.withoutNulls
      (Members.filter_updateAt (fun key => key != "name" && key != "type") "items" _ entry)
  · rfl

/-- A text depends only on what is present under its key. -/
theorem textField_congr {key : String} {entry other : Members}
    (h : Members.present? other key = Members.present? entry key) (owner : Owner) :
    textField key owner other = textField key owner entry := by
  simp only [textField, present?, h]

theorem textField_columnWithoutNulls (kind : Option String) (entry : Members) {key : String}
    (h : key ≠ "items") (owner : Owner) :
    textField key owner (Params.columnWithoutNulls kind entry) = textField key owner entry :=
  textField_congr (Params.present?_columnWithoutNulls kind entry h) owner

/-- A column is read without nulls as the column without nulls, or refused with the same error. -/
theorem columnField_withoutNulls (query : String) (position : Nat) (entry : Members) :
    columnField query position
        (Params.columnWithoutNulls ((Members.present? entry "type").bind Json.string?) entry)
      = (columnField query position entry).map Field.columnWithoutNulls := by
  have hname : "name" ≠ "items" := by decide
  have htype : "type" ≠ "items" := by decide
  simp only [columnField, textField_columnWithoutNulls _ entry hname,
    textField_columnWithoutNulls _ entry htype, paramsOf_columnWithoutNulls]
  refine bind_eq_map_bind fun name _ => bind_eq_map_bind fun kind hkind => ?_
  rw [textField_eq_ok_iff] at hkind
  change Members.present? entry "type" = some (.string kind) at hkind
  split
  · rfl
  · rw [hkind]
    rfl

theorem columnEntry_of_ne_nil {entry : Members} (h : entry ≠ []) (query : String)
    (position : Nat) :
    columnEntry query position (.object entry) = (columnField query position entry).map some := by
  cases entry with
  | nil => exact absurd rfl h
  | cons member entry => rfl

/-- A named column does not vanish without its nulls. -/
theorem columnEntry_withoutNulls (query : String) (position : Nat) {entry : Json}
    (h : ∀ members : Members, entry = .object members → members = [] ∨ ¬ members.Absent "name") :
    columnEntry query position entry.columnWithoutNulls
      = (columnEntry query position entry).map (Option.map Field.columnWithoutNulls) := by
  cases entry with
  | object members =>
    rcases h members rfl with rfl | hname
    · rfl
    · have hpresent : Members.present? members "name" ≠ none :=
        mt Members.present?_eq_none_iff.mp hname
      have hne : members ≠ [] := by
        rintro rfl
        exact hpresent rfl
      have hstays (kind : Option String) : Params.columnWithoutNulls kind members ≠ [] := by
        intro hnil
        rw [← Params.present?_columnWithoutNulls kind members (show "name" ≠ "items" by decide),
          hnil] at hpresent
        exact hpresent rfl
      rw [Json.columnWithoutNulls, columnEntry_of_ne_nil (hstays _), columnEntry_of_ne_nil hne,
        columnField_withoutNulls]
      cases columnField query position members with
      | error error => rfl
      | ok field => rfl
  | _ => rfl

/-- All columns are read without nulls as themselves without nulls, unless nulls are all that
one of them says. -/
theorem columnsFrom_withoutNulls (query : String) (names : Names) (position : Nat)
    {entries : List Json} (h : ∀ members : Members, .object members ∈ entries →
      members = [] ∨ ¬ members.Absent "name") :
    columnsFrom query names position (entries.map Json.columnWithoutNulls)
      = (columnsFrom query names position entries).map fun found =>
        (found.1.map (Option.map Field.columnWithoutNulls), found.2) := by
  induction entries generalizing names position with
  | nil => rfl
  | cons entry entries ih =>
    have hentry := columnEntry_withoutNulls query position fun members hmembers =>
      h members (hmembers ▸ List.mem_cons_self)
    have hrest (names : Names) := ih names (position + 1) fun members hmembers =>
      h members (List.mem_cons_of_mem _ hmembers)
    rw [List.map_cons]
    simp only [columnsFrom, hentry, hrest]
    refine map_bind_eq_map_bind fun column _ => ?_
    cases column with
    | none => exact map_bind_eq_map_bind fun found _ => rfl
    | some field =>
      refine bind_eq_map_bind fun names _ => ?_
      exact map_bind_eq_map_bind fun found _ => rfl

/-- A type is inferred from an expression that is null, too. -/
theorem extraKindOf_withoutNulls (owner : Owner) {entry : Members}
    (h : entry.get? "expression" = some .null → ¬ entry.Absent "type") :
    extraKindOf owner entry.withoutNulls = extraKindOf owner entry := by
  have htype := textField_congr (Members.present?_withoutNulls entry "type") owner
  have hexpression : Members.present? entry "type" = none →
      Members.present? entry "expression" = entry.get? "expression" := by
    intro hnone
    rw [Members.present?_eq_filter]
    cases hfound : entry.get? "expression" with
    | none => rfl
    | some value =>
      rw [Option.filter_some, if_pos]
      cases value with
      | null => exact absurd (Members.present?_eq_none_iff.mp hnone) (h hfound)
      | _ => rfl
  simp only [extraKindOf, present?, Members.present?_withoutNulls, Members.get?_withoutNulls, htype]
  cases hpresent : Members.present? entry "type" with
  | none => rw [hexpression hpresent]
  | some value => rfl

theorem extraField_withoutNulls (query : String) (position : Nat) {entry : Json}
    (h : ∀ members : Members, entry = .object members →
      members.get? "expression" = some .null → ¬ members.Absent "type") :
    extraField query position entry.withoutNulls
      = (extraField query position entry).map Field.withoutNulls := by
  cases entry with
  | object members =>
    have hfield (key : String) (owner : Owner) :=
      textField_congr (Members.present?_withoutNulls members key) owner
    have hkind (owner : Owner) := extraKindOf_withoutNulls owner (h members rfl)
    simp only [extraField, Json.withoutNulls, hfield, hkind, paramsOf_withoutNulls]
    refine bind_eq_map_bind fun name _ => bind_eq_map_bind fun kind _ => ?_
    split
    · rfl
    · exact bind_eq_map_bind fun _ _ => rfl
    · rfl
  | _ => rfl

theorem extrasFrom_withoutNulls (query : String) (names : Names) (position : Nat)
    {entries : List Json} (h : ∀ members : Members, .object members ∈ entries →
      members.get? "expression" = some .null → ¬ members.Absent "type") :
    extrasFrom query names position (entries.map Json.withoutNulls)
      = (extrasFrom query names position entries).map (List.map Field.withoutNulls) := by
  induction entries generalizing names position with
  | nil => rfl
  | cons entry entries ih =>
    have hentry := extraField_withoutNulls query position fun members hmembers =>
      h members (hmembers ▸ List.mem_cons_self)
    have hrest (names : Names) := ih names (position + 1) fun members hmembers =>
      h members (List.mem_cons_of_mem _ hmembers)
    rw [List.map_cons]
    simp only [extrasFrom, hentry, hrest]
    refine map_bind_eq_map_bind fun field _ => bind_eq_map_bind fun names _ => ?_
    exact map_bind_eq_map_bind fun fields _ => rfl

/-! ## Definitions -/

/-- Outside of its columns and extras a definition without nulls has what it had. -/
theorem present?_withoutNullEntries (members : Members) {key : String} (hcolumns : key ≠ "columns")
    (hextras : key ≠ "extras") :
    Members.present? members.withoutNullEntries key = Members.present? members key := by
  rw [Members.withoutNullEntries, Members.present?_withoutNulls,
    Members.present?_updateAt_of_ne hextras, Members.present?_updateAt_of_ne hcolumns]

theorem columnEntries_withoutNullEntries (name : String) (members : Members) :
    columnEntries name members.withoutNullEntries
      = (columnEntries name members).map (List.map Json.columnWithoutNulls) := by
  have hpresent : Members.present? members.withoutNullEntries "columns"
      = (Members.present? members "columns").map (Json.mapItems Json.columnWithoutNulls) := by
    rw [Members.withoutNullEntries, Members.present?_withoutNulls,
      Members.present?_updateAt_of_ne (by decide),
      Members.present?_updateAt (Json.isNull_mapItems _)]
  simp only [columnEntries, present?, hpresent]
  cases Members.present? members "columns" with
  | none => rfl
  | some value => cases value <;> rfl

theorem extraEntries_withoutNullEntries (name : String) (members : Members) :
    extraEntries name members.withoutNullEntries
      = (extraEntries name members).map (List.map Json.withoutNulls) := by
  have hpresent : Members.present? members.withoutNullEntries "extras"
      = (Members.present? members "extras").map (Json.mapItems Json.withoutNulls) := by
    rw [Members.withoutNullEntries, Members.present?_withoutNulls,
      Members.present?_updateAt (Json.isNull_mapItems _),
      Members.present?_updateAt_of_ne (by decide)]
  simp only [extraEntries, present?, hpresent]
  cases Members.present? members "extras" with
  | none => rfl
  | some value => cases value <;> rfl

theorem itemsAt_withoutNullEntries (members : Members) :
    Members.itemsAt members.withoutNullEntries "extras"
      = (members.itemsAt "extras").map Json.withoutNulls := by
  unfold Members.itemsAt
  rw [Members.withoutNullEntries, Members.get?_withoutNulls,
    Members.present?_updateAt (Json.isNull_mapItems _),
    Members.present?_updateAt_of_ne (by decide), Members.present?_eq_filter]
  cases members.get? "extras" with
  | none => rfl
  | some value => cases value <;> rfl

/-- A raw definition without nulls is checked like the one with them: the same definition without
nulls in its parameters, or the same error. -/
theorem ofJson_map_withoutNulls {form : QueryForm} {raw : Json}
    (hcolumns : ∀ entry : Members, .object entry ∈ raw.entriesAt "columns" →
      entry = [] ∨ ¬ entry.Absent "name")
    (hextras : ∀ entry : Members, .object entry ∈ raw.entriesAt "extras" →
      entry.get? "expression" = some .null → ¬ entry.Absent "type") :
    ofJson form raw.withoutNullEntries = (ofJson form raw).map Definition.withoutNulls := by
  cases raw with
  | object members =>
    have hpresent (key : String) (hkey : key ≠ "columns" ∧ key ≠ "extras") :
        present? (Members.withoutNullEntries members) key = present? members key :=
      present?_withoutNullEntries members hkey.1 hkey.2
    simp only [ofJson, Json.withoutNullEntries, nameOf, queryOf, tagsOf, intervalOf,
      metricPrefixOf, hostnameOf, hpresent "name" (by decide), hpresent "query" (by decide),
      hpresent "tags" (by decide), hpresent "collection_interval" (by decide),
      hpresent "metric_prefix" (by decide), hpresent "hostname" (by decide),
      columnEntries_withoutNullEntries, extraEntries_withoutNullEntries]
    refine bind_eq_map_bind fun name _ => bind_eq_map_bind fun query _ => ?_
    refine map_bind_eq_map_bind fun columns hfound => ?_
    refine bind_eq_map_bind fun tags _ => bind_eq_map_bind fun interval _ => ?_
    refine bind_eq_map_bind fun metricPrefix _ => bind_eq_map_bind fun hostname _ => ?_
    -- the entries that are checked are those of the raw definition
    have hcolumnItems : Json.entriesAt "columns" (.object members) = columns :=
      itemsAt_of_columnEntries hfound
    rw [hcolumnItems] at hcolumns
    rw [columnsFrom_withoutNulls name [] 1 hcolumns]
    refine map_bind_eq_map_bind fun found _ => map_bind_eq_map_bind fun extras hfound => ?_
    have hextraItems : Json.entriesAt "extras" (.object members) = extras :=
      itemsAt_of_extraEntries hfound
    rw [hextraItems] at hextras
    rw [extrasFrom_withoutNulls name found.2 1 hextras]
    exact map_bind_eq_map_bind fun fields _ => rfl
  | _ => rfl

/-- Without its nulls, an extra with a null expression has no type. -/
theorem refused_withoutNullEntries {form : QueryForm} {raw : Json} {entry : Members}
    (hentry : .object entry ∈ raw.entriesAt "extras")
    (hexpression : entry.get? "expression" = some .null) (htype : entry.Absent "type")
    (definition : Definition) : ofJson form raw.withoutNullEntries ≠ .ok definition := by
  intro h
  obtain ⟨members, hmembers, hdescribes⟩ := ofJson_eq_ok_iff_describes.mp h
  cases raw with
  | object original =>
    cases hmembers
    have hitems : Members.itemsAt (Members.withoutNullEntries original) "extras"
        = (Members.itemsAt original "extras").map Json.withoutNulls :=
      itemsAt_withoutNullEntries original
    have hextras := hdescribes.extras
    rw [hitems] at hextras
    obtain ⟨field, -, members, hmembers, hextra⟩ :=
      exists_mem_of_forall₂ hextras (List.mem_map_of_mem hentry)
    cases hmembers
    -- neither a type is left nor an expression to infer it from
    have habsent : Members.present? entry "type" = none := Members.present?_eq_none_iff.mpr htype
    have hnull : Members.present? entry "expression" = none :=
      Members.present?_eq_none_iff.mpr (.inr hexpression)
    rcases hextra.kind with hkind | ⟨-, hsome, -⟩
    · rw [Members.get?_withoutNulls, habsent] at hkind
      cases hkind
    · rw [Members.get?_withoutNulls, hnull] at hsome
      cases hsome
  | _ => cases hmembers

end Definition

end RowSignals
