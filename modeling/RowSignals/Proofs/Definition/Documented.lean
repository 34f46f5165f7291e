import RowSignals.Proofs.Json.Members
import RowSignals.Proofs.Number.Positive
import RowSignals.Proofs.Query.Definitions

/-!
# What a definition may say

The forms in which the fields, columns and extras of a definition are written, said without the
check, and the check against them, field by field.

* `Definition.columnTypes`, `Definition.extraTypes`, `Definition.submitTypes`: the documented
  types.
* `Definition.IsColumn`, `Definition.IsExtra`: what an entry says, as a relation to its field.
* `Definition.IsQuestion`: what may be asked.
* `Definition.columnEntry_eq_ok_iff_isColumn`, `Definition.extraField_eq_ok_iff_isExtra`: the
  check of an entry.
-/

namespace RowSignals

/-! ## Numbers -/

/-- A number above zero. -/
def Json.Number.IsPositive : Json.Number → Prop
  | .int i => 0 < i
  | .float x => 0 < x

/-- A number is above zero if its float is. No integer is so small that rounding makes it zero. -/
theorem Json.Number.toFloat_pos_iff {number : Json.Number} :
    0 < number.toFloat ↔ number.IsPositive := by
  cases number with
  | int i => exact Number.ofInt_pos_iff
  | float x => exact Iff.rfl

namespace Definition

/-! ## Types -/

/-- The types that submit a value. -/
def submitTypes : List String :=
  ["gauge", "count", "monotonic_count", "rate", "histogram", "historate", "monotonic_gauge",
    "temporal_percent", "service_check", "time_elapsed", "metadata"]

/-- The types of columns. -/
def columnTypes : List String :=
  ["source", "tag", "tag_list", "match"] ++ submitTypes

/-- The types of extras. -/
def extraTypes : List String :=
  ["expression", "percent"] ++ submitTypes

/-- The types of columns that are known are the documented ones. -/
theorem ofName?_isSome_iff_columnTypes {kind : String} :
    (ColumnKind.ofName? kind).isSome ↔ kind ∈ columnTypes := by
  have hnames : ColumnKind.all.map ColumnKind.name = columnTypes := rfl
  rw [← hnames, ColumnKind.ofName?, List.find?_isSome, List.mem_map]
  simp only [beq_iff_eq]

theorem ofName?_isSome_iff_extraTypes {kind : String} :
    (ExtraKind.ofName? kind).isSome ↔ kind ∈ extraTypes := by
  have hnames : ExtraKind.all.map ExtraKind.name = extraTypes := rfl
  rw [← hnames, ExtraKind.ofName?, List.find?_isSome, List.mem_map]
  simp only [beq_iff_eq]

/-- The types that submit a value are those of extras that submit a source. -/
theorem ofName?_submit_iff {kind : String} :
    (∃ submitKind, ExtraKind.ofName? kind = some (.submit submitKind)) ↔ kind ∈ submitTypes := by
  have hnames : SubmitKind.all.map SubmitKind.name = submitTypes := rfl
  rw [← hnames, List.mem_map]
  constructor
  · rintro ⟨submitKind, h⟩
    have hmem : ExtraKind.submit submitKind ∈ ExtraKind.all := List.mem_of_find?_eq_some h
    have hname : (ExtraKind.submit submitKind).name = kind := by simpa using List.find?_some h
    exact ⟨submitKind, by simpa [ExtraKind.all] using hmem, hname⟩
  · rintro ⟨submitKind, -, rfl⟩
    refine ⟨submitKind, ?_⟩
    cases submitKind with
    | metric kind => cases kind <;> rfl
    | _ => rfl

/-! ## Entries -/

/-- The name of an entry, if it has a text for one. -/
def entryName? (entry : Json) : Option String :=
  (entry.member? "name").bind Json.string?

/-- What a mapping says besides name and type. -/
def otherMembers (entry : Json.Members) : Params :=
  entry.filter fun member => member.1 ≠ "name" ∧ member.1 ≠ "type"

/-- The parameters of an entry are what it says besides name and type. -/
theorem paramsOf_eq (entry : Json.Members) : paramsOf entry = otherMembers entry := by
  refine List.filter_congr fun member _ => ?_
  simp [bne, Bool.beq_eq_decide_eq]

/-- `IsColumn entry column`: the entry stands for the column. Null and the empty mapping leave a
position without one. -/
inductive IsColumn : Json → Option Field → Prop
  | null : IsColumn .null none
  | empty : IsColumn (.object []) none
  | field {entry : Json.Members} {field : Field} :
    entry.get? "name" = some (.string field.name) →
    entry.get? "type" = some (.string field.kind) → field.kind ∈ columnTypes →
    field.params = otherMembers entry → IsColumn (.object entry) (some field)

/-- What a mapping says that stands for an extra. The type goes without saying where there is an
expression. -/
structure ExtraMembers (entry : Json.Members) (field : Field) : Prop where
  name : entry.get? "name" = some (.string field.name)
  kind : entry.get? "type" = some (.string field.kind) ∨
    entry.Absent "type" ∧ (entry.get? "expression").isSome ∧ field.kind = "expression"
  known : field.kind ∈ extraTypes
  source : field.kind ∈ submitTypes → ∃ source, entry.get? "source" = some (.string source)
  params : field.params = otherMembers entry

/-- `IsExtra entry field`: the entry stands for the extra. -/
def IsExtra (entry : Json) (field : Field) : Prop :=
  ∃ members : Json.Members, entry = .object members ∧ ExtraMembers members field

/-- A text is read where the member is one; null is none. -/
theorem textField_eq_ok_iff_get? {key text : String} {owner : Owner} {entry : Json.Members} :
    textField key owner entry = .ok text ↔ entry.get? key = some (.string text) := by
  rw [textField_eq_ok_iff]
  exact Json.Members.present?_eq_some_iff.trans (and_iff_left (by simp))

/-- An entry is read as the column that it stands for. -/
theorem columnEntry_eq_ok_iff_isColumn {query : String} {position : Nat} {entry : Json}
    {column : Option Field} :
    columnEntry query position entry = .ok column ↔ IsColumn entry column := by
  constructor
  · intro h
    unfold columnEntry at h
    split at h
    · cases h
      exact .null
    · cases h
      exact .empty
    · obtain ⟨field, hfield, rfl⟩ := map_eq_ok.mp h
      obtain ⟨hname, hkind, hknown, hparams⟩ := columnField_eq_ok_iff.mp hfield
      exact .field (Json.Members.present?_eq_some_iff.mp hname).1
        (Json.Members.present?_eq_some_iff.mp hkind).1 (ofName?_isSome_iff_columnTypes.mp hknown)
        (hparams.trans (paramsOf_eq _))
    · cases h
  · intro h
    cases h with
    | null => rfl
    | empty => rfl
    | @field entry field hname hkind hknown hparams =>
      have hfield : columnField query position entry = .ok field := by
        refine columnField_eq_ok_iff.mpr ⟨?_, ?_, ofName?_isSome_iff_columnTypes.mpr hknown, ?_⟩
        · exact Json.Members.present?_eq_some_iff.mpr ⟨hname, by simp⟩
        · exact Json.Members.present?_eq_some_iff.mpr ⟨hkind, by simp⟩
        · rw [hparams, paramsOf_eq]
      -- a mapping that says its name is not the empty one
      cases entry with
      | nil => cases hname
      | cons member entry => exact map_eq_ok.mpr ⟨field, hfield, rfl⟩

/-- The type of an extra is what it says, or an expression where it says none and has one. -/
theorem extraKindOf_eq_ok_iff {owner : Owner} {entry : Json.Members} {kind : String} :
    extraKindOf owner entry = .ok kind ↔ entry.get? "type" = some (.string kind) ∨
      entry.Absent "type" ∧ (entry.get? "expression").isSome ∧ kind = "expression" := by
  have hpresent : present? entry "type" = none ↔ entry.Absent "type" :=
    Json.Members.present?_eq_none_iff
  unfold extraKindOf
  split
  -- no type, but an expression
  · rename_i htype hexpression
    have habsent := hpresent.mp htype
    have hnone : ¬ entry.get? "type" = some (.string kind) := by
      rcases habsent with h | h <;> simp [h]
    rw [or_iff_right hnone, hexpression]
    constructor
    · rintro ⟨rfl⟩
      exact ⟨habsent, rfl, rfl⟩
    · rintro ⟨-, -, rfl⟩
      rfl
  · rename_i hother
    rw [textField_eq_ok_iff_get?, iff_self_or]
    rintro ⟨habsent, hexpression, -⟩
    obtain ⟨value, hvalue⟩ := Option.isSome_iff_exists.mp hexpression
    exact (hother value (hpresent.mpr habsent) hvalue).elim

/-- An entry is read as the extra that it stands for. -/
theorem extraField_eq_ok_iff_isExtra {query : String} {position : Nat} {entry : Json}
    {field : Field} : extraField query position entry = .ok field ↔ IsExtra entry field := by
  constructor
  · intro h
    unfold extraField at h
    split at h
    · rename_i members
      obtain ⟨name, hname, h⟩ := bind_eq_ok.mp h
      obtain ⟨kind, hkind, h⟩ := bind_eq_ok.mp h
      have hname := textField_eq_ok_iff_get?.mp hname
      have hkind := extraKindOf_eq_ok_iff.mp hkind
      -- of the known types, only those that submit are asked for a source
      split at h
      · cases h
      · rename_i submitKind hfound
        have hknown := ofName?_isSome_iff_extraTypes.mp (Option.isSome_of_mem hfound)
        obtain ⟨_, hsource, h⟩ := bind_eq_ok.mp h
        obtain ⟨source, hsource, -⟩ := map_eq_ok.mp hsource
        cases h
        exact ⟨members, rfl, hname, hkind, hknown,
          fun _ => ⟨source, textField_eq_ok_iff_get?.mp hsource⟩, paramsOf_eq members⟩
      · rename_i other hother hfound
        have hknown := ofName?_isSome_iff_extraTypes.mp (Option.isSome_of_mem hfound)
        cases h
        refine ⟨members, rfl, hname, hkind, hknown, fun hsubmit => ?_, paramsOf_eq members⟩
        obtain ⟨submitKind, hsame⟩ := ofName?_submit_iff.mpr hsubmit
        exact (hother submitKind (Option.some.inj (hfound.symm.trans hsame))).elim
    · cases h
  · rintro ⟨members, rfl, h⟩
    refine bind_eq_ok.mpr ⟨field.name, textField_eq_ok_iff_get?.mpr h.name, ?_⟩
    refine bind_eq_ok.mpr ⟨field.kind, extraKindOf_eq_ok_iff.mpr h.kind, ?_⟩
    obtain ⟨kind, hkind⟩ := Option.isSome_iff_exists.mp (ofName?_isSome_iff_extraTypes.mpr h.known)
    have hfield : (⟨field.name, field.kind, paramsOf members⟩ : Field) = field := by
      rw [paramsOf_eq, ← h.params]
    rw [hkind, hfield]
    cases kind with
    | submit submitKind =>
      obtain ⟨source, hsource⟩ := h.source (ofName?_submit_iff.mp ⟨submitKind, hkind⟩)
      have hsource : textField "source" (.extra field.name query) members = .ok source :=
        textField_eq_ok_iff_get?.mpr hsource
      exact bind_eq_ok.mpr ⟨(), map_eq_ok.mpr ⟨source, hsource, rfl⟩, rfl⟩
    | expression => rfl
    | percent => rfl

/-! ## Fields of the query -/

/-- What may be asked: a text, and with structured queries a mapping or a list. -/
def IsQuestion (form : QueryForm) (query : Json) : Prop :=
  (∃ text, query = .string text) ∨
    form = .structured ∧ ((∃ members, query = .object members) ∨ ∃ items, query = .array items)

/-- A key has no value, or one that is not null. -/
theorem present?_cases (members : Json.Members) (key : String) :
    (present? members key = none ∧ members.Absent key ∧
      ∀ value, value ≠ .null → members.get? key ≠ some value) ∨
    ∃ value, present? members key = some value ∧ value ≠ .null ∧
      members.get? key = some value ∧ ¬ members.Absent key := by
  cases hpresent : present? members key with
  | none =>
    have habsent := Json.Members.present?_eq_none_iff.mp hpresent
    refine .inl ⟨rfl, habsent, fun value hne heq => ?_⟩
    have hsome := Json.Members.present?_eq_some_iff.mpr ⟨heq, hne⟩
    exact Option.some_ne_none _ (hsome.symm.trans hpresent)
  | some value =>
    obtain ⟨hget, hne⟩ := Json.Members.present?_eq_some_iff.mp hpresent
    refine .inr ⟨value, rfl, hne, hget, fun habsent => ?_⟩
    have hnone := Json.Members.present?_eq_none_iff.mpr habsent
    exact Option.some_ne_none _ (hpresent.symm.trans hnone)

section
variable {name : String} {members : Json.Members}

theorem nameOf_eq_ok_iff : nameOf members = .ok name ↔
    members.get? "name" = some (.string name) := by
  rcases present?_cases members "name" with ⟨h, -, hget⟩ | ⟨value, h, -, hget, -⟩
  · simp [nameOf, h, hget]
  · cases value <;> simp_all [nameOf]

theorem queryOf_eq_ok_iff {form : QueryForm} {query : Json} :
    queryOf form name members = .ok query ↔
      members.get? "query" = some query ∧ IsQuestion form query := by
  -- Absent and null are alike: neither is a question in any form.
  rcases present?_cases members "query" with ⟨h, -, hget⟩ | ⟨value, h, -, hget, -⟩
  · unfold queryOf
    rw [h]
    refine iff_of_false (by simp) ?_
    rintro ⟨heq, ⟨text, rfl⟩ | ⟨-, ⟨inner, rfl⟩ | ⟨items, rfl⟩⟩⟩
    · exact hget _ (by simp) heq
    · exact hget _ (by simp) heq
    · exact hget _ (by simp) heq
  · unfold queryOf
    rw [h, hget, Option.some.injEq]
    constructor
    · intro hquery
      split at hquery
      · cases hquery
      · rename_i text heq
        cases heq
        cases hquery
        exact ⟨rfl, .inl ⟨text, rfl⟩⟩
      · rename_i inner heq
        cases heq
        cases hquery
        exact ⟨rfl, .inr ⟨rfl, .inl ⟨inner, rfl⟩⟩⟩
      · rename_i items heq
        cases heq
        cases hquery
        exact ⟨rfl, .inr ⟨rfl, .inr ⟨items, rfl⟩⟩⟩
      · cases hquery
    · rintro ⟨rfl, ⟨text, rfl⟩ | ⟨rfl, ⟨inner, rfl⟩ | ⟨items, rfl⟩⟩⟩
      · rfl
      · rfl
      · rfl

theorem columnEntries_eq_ok_iff {columns : List Json} :
    columnEntries name members = .ok columns ↔ members.get? "columns" = some (.array columns) := by
  rcases present?_cases members "columns" with ⟨h, -, hget⟩ | ⟨value, h, -, hget, -⟩
  · simp [columnEntries, h, hget]
  · cases value <;> simp_all [columnEntries]

/-- Items are read as texts if they are those texts. -/
theorem mapM_string?_eq_some_iff {items : List Json} {texts : List String} :
    items.mapM Json.string? = some texts ↔ items = texts.map .string := by
  have hstring (item : Json) (text : String) : item.string? = some text ↔ item = .string text := by
    cases item <;> simp [Json.string?]
  induction items generalizing texts with
  | nil => simp [eq_comm]
  | cons item items ih =>
    simp only [List.mapM_cons, Option.bind_eq_bind, Option.bind_eq_some_iff, hstring, ih,
      Option.pure_def, Option.some.injEq]
    constructor
    · rintro ⟨text, rfl, others, rfl, rfl⟩
      rfl
    · intro h
      cases texts with
      | nil => cases h
      | cons text texts =>
        obtain ⟨rfl, rfl⟩ := List.cons.inj h
        exact ⟨text, rfl, texts, rfl, rfl⟩

/-- The tags are a list of texts; there are none where the key is absent. -/
theorem tagsOf_eq_ok_iff {tags : List String} : tagsOf name members = .ok tags ↔
    members.Absent "tags" ∧ tags = [] ∨ members.get? "tags" = some (.ofStrings tags) := by
  rcases present?_cases members "tags" with ⟨h, habsent, hget⟩ | ⟨value, h, -, hget, hvalue⟩
  · simp [tagsOf, h, habsent, hget, Json.ofStrings, eq_comm]
  · cases value with
    | array items =>
      simp only [tagsOf, h, hget, hvalue, false_and, false_or, Json.ofStrings, Option.some.injEq,
        Json.array.injEq, ← mapM_string?_eq_some_iff]
      cases items.mapM Json.string? <;> simp
    | _ => simp [tagsOf, h, hget, hvalue, Json.ofStrings]

/-- The interval is a number above zero, if there is one. -/
theorem intervalOf_eq_ok_iff {interval : Option Float} :
    intervalOf name members = .ok interval ↔
      members.Absent "collection_interval" ∧ interval = none ∨
      ∃ number, members.get? "collection_interval" = some (.number number) ∧ number.IsPositive ∧
        interval = some number.toFloat := by
  rcases present?_cases members "collection_interval" with
    ⟨h, habsent, hget⟩ | ⟨value, h, -, hget, hvalue⟩
  · simp [intervalOf, h, habsent, hget, eq_comm]
  · cases value with
    | number number =>
      by_cases hpos : number.IsPositive
      · have htoFloat := Json.Number.toFloat_pos_iff.mpr hpos
        simp [intervalOf, h, hget, hvalue, Json.float?, hpos, htoFloat, eq_comm]
      · have htoFloat := mt Json.Number.toFloat_pos_iff.mp hpos
        simp [intervalOf, h, hget, hvalue, Json.float?, hpos, htoFloat]
    | _ => simp [intervalOf, h, hget, hvalue, Json.float?]

/-- The prefix is a text that is not empty, if there is one. -/
theorem metricPrefixOf_eq_ok_iff {metricPrefix : Option String} :
    metricPrefixOf name members = .ok metricPrefix ↔
      members.Absent "metric_prefix" ∧ metricPrefix = none ∨
      ∃ text, members.get? "metric_prefix" = some (.string text) ∧ text ≠ "" ∧
        metricPrefix = some text := by
  rcases present?_cases members "metric_prefix" with
    ⟨h, habsent, hget⟩ | ⟨value, h, -, hget, hvalue⟩
  · simp [metricPrefixOf, h, habsent, hget, eq_comm]
  · cases value with
    | string text =>
      by_cases hempty : text = ""
      · simp [metricPrefixOf, h, hget, hvalue, hempty]
      · simp [metricPrefixOf, h, hget, hvalue, hempty, eq_comm]
    | _ => simp [metricPrefixOf, h, hget, hvalue]

theorem hostnameOf_eq_ok_iff {hostname : Option String} :
    hostnameOf name members = .ok hostname ↔
      members.Absent "hostname" ∧ hostname = none ∨
      ∃ text, members.get? "hostname" = some (.string text) ∧ hostname = some text := by
  rcases present?_cases members "hostname" with ⟨h, habsent, hget⟩ | ⟨value, h, -, hget, hvalue⟩
  · simp [hostnameOf, h, habsent, hget, eq_comm]
  · cases value with
    | string text => simp [hostnameOf, h, hget, hvalue, eq_comm]
    | _ => simp [hostnameOf, h, hget, hvalue]

theorem extraEntries_eq_ok_iff {extras : List Json} :
    extraEntries name members = .ok extras ↔
      members.Absent "extras" ∧ extras = [] ∨ members.get? "extras" = some (.array extras) := by
  rcases present?_cases members "extras" with ⟨h, habsent, hget⟩ | ⟨value, h, -, hget, hvalue⟩
  · simp [extraEntries, h, habsent, hget, eq_comm]
  · cases value <;> simp [extraEntries, h, hget, hvalue]

theorem itemsAt_of_columnEntries {columns : List Json}
    (h : columnEntries name members = .ok columns) : members.itemsAt "columns" = columns :=
  Json.Members.itemsAt_of_get? (columnEntries_eq_ok_iff.mp h)

theorem itemsAt_of_extraEntries {extras : List Json}
    (h : extraEntries name members = .ok extras) : members.itemsAt "extras" = extras := by
  rcases extraEntries_eq_ok_iff.mp h with ⟨habsent, rfl⟩ | hlist
  · exact Json.Members.itemsAt_of_absent habsent
  · exact Json.Members.itemsAt_of_get? hlist

end

end Definition

end RowSignals
