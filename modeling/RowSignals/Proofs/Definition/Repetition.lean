import RowSignals.Proofs.Definition.Acceptance

/-!
# Repeated names

The columns and extras of a definition share their names. The check goes through them in order,
with the names so far and where each was declared, and stops at the first name that is there
already; what it reports then is where that name was declared first.

* `Definition.places`: the names that a mapping declares, with their places.
* `Definition.FirstRepetition`: the first name in a list that was there before.
* `Definition.ofJson_object_error`: a refused mapping has a part that is not of the documented
  form, or a repeated name.
* `Definition.ofJson_accepts_exactly`: what the check of a definition promises.
-/

namespace RowSignals

/-- Whether an error is about something that is there twice. -/
def DefinitionError.isRepetition : DefinitionError → Bool
  | .duplicateName _ _ _ => true
  | .duplicateQuery _ => true
  | _ => false

namespace Definition

/-- An error in two parts is that of the second part, unless it is not about a repetition, and
what the first part depends on fails. -/
theorem refused_or_later {α β : Type} {x : Except DefinitionError α}
    {f : α → Except DefinitionError β} {error : DefinitionError} {Formed : Prop}
    (hunrepeated : x = .error error → error.isRepetition = false)
    (hformed : Formed → ∃ a, x = .ok a) (h : x >>= f = .error error) :
    (error.isRepetition = false ∧ ¬ Formed) ∨ ∃ a, x = .ok a ∧ f a = .error error := by
  rcases bind_eq_error.mp h with hfirst | hlater
  · refine .inl ⟨hunrepeated hfirst, fun hholds => ?_⟩
    obtain ⟨a, ha⟩ := hformed hholds
    cases hfirst.symm.trans ha
  · exact .inr hlater

/-! ## Declared names -/

/-- The names of entries with their places, from a position on. -/
def placesFrom (place : Nat → Place) (position : Nat) (entries : List Json) : Names :=
  (entries.zipIdx position).filterMap fun entry =>
    (entryName? entry.1).map fun name => (name, place entry.2)

/-- The names of the columns, then those of the extras; positions are counted from one. -/
def places (members : Json.Members) : Names :=
  placesFrom .column 1 (members.itemsAt "columns") ++ placesFrom .extra 1 (members.itemsAt "extras")

theorem placesFrom_cons (place : Nat → Place) (position : Nat) (entry : Json)
    (entries : List Json) : placesFrom place position (entry :: entries)
      = ((entryName? entry).map fun name => (name, place position)).toList
        ++ placesFrom place (position + 1) entries := by
  unfold placesFrom
  rw [List.zipIdx_cons, List.filterMap_cons]
  cases entryName? entry <;> rfl

/-- The first name in a list that was there before, and where it was declared first. -/
def FirstRepetition (declared : Names) (name : String) (place : Place) : Prop :=
  ∃ before between again after,
    declared = before ++ (name, place) :: between ++ (name, again) :: after ∧
    ((before ++ (name, place) :: between).map Prod.fst).Nodup

/-- The first name in a list that is among the names before it, which are kept with the latest
first, and its place there. -/
def Repeats (names declared : Names) (name : String) (place : Place) : Prop :=
  ∃ seen again after, declared = seen ++ (name, again) :: after ∧
    ((seen.reverse ++ names).map Prod.fst).Nodup ∧
    (seen.reverse ++ names).lookup name = some place

section
variable {names declared : Names} {name : String} {place : Place}

/-- Names that went before may be counted as part of the list. -/
theorem Repeats.append {seen : Names} (h : Repeats (seen.reverse ++ names) declared name place) :
    Repeats names (seen ++ declared) name place := by
  obtain ⟨more, again, after, rfl, hnodup, hlookup⟩ := h
  refine ⟨seen ++ more, again, after, by rw [List.append_assoc], ?_, ?_⟩
  · rwa [List.reverse_append, List.append_assoc]
  · rwa [List.reverse_append, List.append_assoc]

/-- Names after the repetition do not matter. -/
theorem Repeats.append_right (h : Repeats names declared name place) (others : Names) :
    Repeats names (declared ++ others) name place := by
  obtain ⟨seen, again, after, rfl, hnodup, hlookup⟩ := h
  exact ⟨seen, again, after ++ others, by simp, hnodup, hlookup⟩

/-- Without names before it, what repeats is the first repetition of the list. -/
theorem Repeats.first (h : Repeats [] declared name place) :
    FirstRepetition declared name place := by
  obtain ⟨seen, again, after, rfl, hnodup, hlookup⟩ := h
  rw [List.append_nil] at hnodup hlookup
  obtain ⟨later, earlier, hseen, -⟩ := List.lookup_eq_some_iff.mp hlookup
  have hseen : seen = earlier.reverse ++ (name, place) :: later.reverse := by
    rw [← List.reverse_reverse seen, hseen]
    simp
  subst hseen
  refine ⟨earlier.reverse, later.reverse, again, after, rfl, ?_⟩
  rw [List.map_reverse] at hnodup
  exact List.nodup_reverse.mp hnodup

end

/-- Registering a name reports where it was declared first, or makes it one of the names that
those after it are compared with. -/
theorem register_then_error {β : Type} {names declared : Names} {name query : String}
    {place : Place} {f : Names → Except DefinitionError β} {error : DefinitionError} {refused : Prop}
    (hnodup : (names.map Prod.fst).Nodup)
    (h : register names name query place >>= f = .error error)
    (hlater : (((name, place) :: names).map Prod.fst).Nodup →
      f ((name, place) :: names) = .error error →
      refused ∨ ∃ later first, error = .duplicateName later query first ∧
        Repeats ((name, place) :: names) declared later first) :
    refused ∨ ∃ later first, error = .duplicateName later query first ∧
      Repeats names ((name, place) :: declared) later first := by
  rcases bind_eq_error.mp h with hknown | ⟨more, hmore, h⟩
  · unfold register at hknown
    split at hknown
    · rename_i first hfirst
      cases hknown
      exact .inr ⟨name, first, rfl, [], place, declared, rfl, hnodup, hfirst⟩
    · cases hknown
  · obtain ⟨hnew, rfl⟩ := register_eq_ok hmore
    rcases hlater (List.nodup_cons.mpr ⟨hnew, hnodup⟩) h with
      hrefused | ⟨later, first, rfl, hrepeats⟩
    · exact .inl hrefused
    · have hcounted : Repeats names ([(name, place)] ++ declared) later first :=
        .append hrepeats
      exact .inr ⟨later, first, rfl, hcounted⟩

/-! ## Errors of single steps -/

section
variable {form : QueryForm} {name : String} {members : Json.Members} {error : DefinitionError}

/-- A name is not refused for a repetition, and neither is what the steps below read. -/
theorem nameOf_unrepeated (h : nameOf members = .error error) : error.isRepetition = false := by
  unfold nameOf at h
  split at h <;> cases h <;> rfl

theorem queryOf_unrepeated (h : queryOf form name members = .error error) :
    error.isRepetition = false := by
  unfold queryOf at h
  split at h <;> cases h <;> rfl

theorem columnEntries_unrepeated (h : columnEntries name members = .error error) :
    error.isRepetition = false := by
  unfold columnEntries at h
  split at h <;> cases h <;> rfl

theorem tagsOf_unrepeated (h : tagsOf name members = .error error) :
    error.isRepetition = false := by
  unfold tagsOf at h
  split at h
  · cases h
  · split at h
    · cases h
    · cases h
      rfl
  · cases h
    rfl

theorem intervalOf_unrepeated (h : intervalOf name members = .error error) :
    error.isRepetition = false := by
  unfold intervalOf at h
  split at h
  · cases h
  · split at h
    · split at h
      · cases h
      · cases h
        rfl
    · cases h
      rfl

theorem metricPrefixOf_unrepeated (h : metricPrefixOf name members = .error error) :
    error.isRepetition = false := by
  unfold metricPrefixOf at h
  split at h
  · cases h
  · split at h
    · cases h
      rfl
    · cases h
  · cases h
    rfl

theorem hostnameOf_unrepeated (h : hostnameOf name members = .error error) :
    error.isRepetition = false := by
  unfold hostnameOf at h
  split at h
  · cases h
  · cases h
  · cases h
    rfl

theorem extraEntries_unrepeated (h : extraEntries name members = .error error) :
    error.isRepetition = false := by
  unfold extraEntries at h
  split at h
  · cases h
  · cases h
  · cases h
    rfl

end

section
variable {query key : String} {position : Nat} {owner : Owner} {entry : Json}
  {members : Json.Members} {error : DefinitionError}

theorem textField_unrepeated (h : textField key owner members = .error error) :
    error.isRepetition = false := by
  unfold textField at h
  split at h <;> cases h <;> rfl

theorem columnEntry_unrepeated (h : columnEntry query position entry = .error error) :
    error.isRepetition = false := by
  unfold columnEntry at h
  split at h
  · cases h
  · cases h
  · rcases bind_eq_error.mp (map_eq_error.mp h) with hname | ⟨name, -, h⟩
    · exact textField_unrepeated hname
    · rcases bind_eq_error.mp h with hkind | ⟨kind, -, h⟩
      · exact textField_unrepeated hkind
      · split at h
        · cases h
          rfl
        · cases h
  · cases h
    rfl

theorem extraKindOf_unrepeated (h : extraKindOf owner members = .error error) :
    error.isRepetition = false := by
  unfold extraKindOf at h
  split at h
  · cases h
  · exact textField_unrepeated h

theorem extraField_unrepeated (h : extraField query position entry = .error error) :
    error.isRepetition = false := by
  unfold extraField at h
  split at h
  · rcases bind_eq_error.mp h with hname | ⟨name, -, h⟩
    · exact textField_unrepeated hname
    · rcases bind_eq_error.mp h with hkind | ⟨kind, -, h⟩
      · exact extraKindOf_unrepeated hkind
      · split at h
        · cases h
          rfl
        · have hsource := error_of_bind (fun _ => ⟨_, rfl⟩) h
          exact textField_unrepeated (map_eq_error.mp hsource)
        · cases h
  · cases h
    rfl

/-! ## Columns and extras with an error -/

/-- The names after the columns are those of the columns too, the latest first. -/
theorem columnsFrom_places {names others : Names} {entries : List Json}
    {columns : List (Option Field)}
    (h : columnsFrom query names position entries = .ok (columns, others)) :
    others = (placesFrom .column position entries).reverse ++ names := by
  induction entries generalizing names position columns with
  | nil =>
    cases h
    rfl
  | cons entry entries ih =>
    obtain ⟨column, hcolumn, h⟩ := bind_eq_ok.mp h
    have hname := (columnEntry_eq_ok_iff_isColumn.mp hcolumn).entryName?_eq
    rw [placesFrom_cons, hname]
    cases column with
    | none =>
      obtain ⟨_, ⟨rfl⟩, h⟩ := bind_eq_ok.mp h
      obtain ⟨⟨rest, final⟩, hrest, h⟩ := bind_eq_ok.mp h
      cases h
      exact ih hrest
    | some field =>
      obtain ⟨more, hmore, h⟩ := bind_eq_ok.mp h
      obtain ⟨⟨rest, final⟩, hrest, h⟩ := bind_eq_ok.mp h
      cases h
      obtain ⟨-, rfl⟩ := register_eq_ok hmore
      rw [ih hrest]
      simp

/-- Columns are refused for an entry that stands for none, or for the first repeated name. -/
theorem columnsFrom_error {names : Names} {entries : List Json}
    (hnodup : (names.map Prod.fst).Nodup)
    (h : columnsFrom query names position entries = .error error) :
    (error.isRepetition = false ∧ ¬ ∀ entry ∈ entries, ∃ column, IsColumn entry column) ∨
      ∃ name place, error = .duplicateName name query place ∧
        Repeats names (placesFrom .column position entries) name place := by
  induction entries generalizing names position with
  | nil => cases h
  | cons entry entries ih =>
    rw [List.forall_mem_cons, not_and_or, placesFrom_cons]
    rcases refused_or_later columnEntry_unrepeated
      (Exists.imp fun _ => columnEntry_eq_ok_iff_isColumn.mpr) h with
      hrefused | ⟨column, hcolumn, h⟩
    · exact .inl ⟨hrefused.1, .inl hrefused.2⟩
    -- The entry stands for a column, so the check fails at its name or later.
    rw [(columnEntry_eq_ok_iff_isColumn.mp hcolumn).entryName?_eq]
    cases column with
    | none =>
      obtain ⟨_, ⟨rfl⟩, h⟩ := (bind_eq_error.mp h).resolve_left (by intro h; cases h)
      have hrest := error_of_bind (fun _ => ⟨_, rfl⟩) h
      exact (ih hnodup hrest).imp_left fun hother => ⟨hother.1, .inr hother.2⟩
    | some field =>
      have hrest := register_then_error hnodup h fun hnodup h =>
        ih hnodup (error_of_bind (fun _ => ⟨_, rfl⟩) h)
      exact hrest.imp_left fun hother => ⟨hother.1, .inr hother.2⟩

/-- Extras are refused for an entry that stands for none, or for the first repeated name. -/
theorem extrasFrom_error {names : Names} {entries : List Json}
    (hnodup : (names.map Prod.fst).Nodup)
    (h : extrasFrom query names position entries = .error error) :
    (error.isRepetition = false ∧ ¬ ∀ entry ∈ entries, ∃ field, IsExtra entry field) ∨
      ∃ name place, error = .duplicateName name query place ∧
        Repeats names (placesFrom .extra position entries) name place := by
  induction entries generalizing names position with
  | nil => cases h
  | cons entry entries ih =>
    rw [List.forall_mem_cons, not_and_or, placesFrom_cons]
    rcases refused_or_later extraField_unrepeated
      (Exists.imp fun _ => extraField_eq_ok_iff_isExtra.mpr) h with
      hrefused | ⟨field, hfield, h⟩
    · exact .inl ⟨hrefused.1, .inl hrefused.2⟩
    rw [(extraField_eq_ok_iff_isExtra.mp hfield).entryName?_eq]
    have hrest := register_then_error hnodup h fun hnodup h =>
      ih hnodup (error_of_bind (fun _ => ⟨_, rfl⟩) h)
    exact hrest.imp_left fun hother => ⟨hother.1, .inr hother.2⟩

end

/-! ## Refused definitions -/

section
variable {form : QueryForm} {members : Json.Members}

/-- A mapping is refused for a part that is not of the documented form, or for the first repeated
name. -/
theorem ofJson_object_error {error : DefinitionError}
    (h : ofJson form (.object members) = .error error) :
    (error.isRepetition = false ∧ ¬ Formed form members) ∨
      ∃ name query place, error = .duplicateName name query place ∧
        members.get? "name" = some (.string query) ∧
        FirstRepetition (places members) name place := by
  rcases refused_or_later nameOf_unrepeated Formed.nameOf_ok h with hrefused | ⟨query, hname, h⟩
  · exact .inl hrefused
  rcases refused_or_later queryOf_unrepeated (Formed.queryOf_ok · query) h with
    hrefused | ⟨_, -, h⟩
  · exact .inl hrefused
  rcases refused_or_later columnEntries_unrepeated (Formed.columnEntries_ok · query) h with
    hrefused | ⟨columns, hcolumns, h⟩
  · exact .inl hrefused
  rcases refused_or_later tagsOf_unrepeated (Formed.tagsOf_ok · query) h with
    hrefused | ⟨_, -, h⟩
  · exact .inl hrefused
  rcases refused_or_later intervalOf_unrepeated (Formed.intervalOf_ok · query) h with
    hrefused | ⟨_, -, h⟩
  · exact .inl hrefused
  rcases refused_or_later metricPrefixOf_unrepeated (Formed.metricPrefixOf_ok · query) h with
    hrefused | ⟨_, -, h⟩
  · exact .inl hrefused
  rcases refused_or_later hostnameOf_unrepeated (Formed.hostnameOf_ok · query) h with
    hrefused | ⟨_, -, h⟩
  · exact .inl hrefused
  have hname := nameOf_eq_ok_iff.mp hname
  have hcolumns := itemsAt_of_columnEntries hcolumns
  -- the columns start without names, and the extras with those of the columns
  rcases bind_eq_error.mp h with hfields | ⟨⟨fields, names⟩, hfields, h⟩
  · have hnodup : (([] : Names).map Prod.fst).Nodup := List.nodup_nil
    rcases columnsFrom_error hnodup hfields with
      ⟨hunrepeated, hunformed⟩ | ⟨name, place, rfl, hrepeats⟩
    · exact .inl ⟨hunrepeated, fun hformed => hunformed (hcolumns ▸ hformed.eachColumn)⟩
    · refine .inr ⟨name, query, place, rfl, hname, ?_⟩
      rw [places, hcolumns]
      exact (hrepeats.append_right _).first
  have hplaces := columnsFrom_places hfields
  have hnodup := (columnsFrom_names hfields List.nodup_nil).2
  rcases refused_or_later extraEntries_unrepeated (Formed.extraEntries_ok · query) h with
    hrefused | ⟨extras, hextras, h⟩
  · exact .inl hrefused
  have hextras := itemsAt_of_extraEntries hextras
  have hfinal := error_of_bind (fun _ => ⟨_, rfl⟩) h
  rcases extrasFrom_error hnodup hfinal with
    ⟨hunrepeated, hunformed⟩ | ⟨name, place, rfl, hrepeats⟩
  · exact .inl ⟨hunrepeated, fun hformed => hunformed (hextras ▸ hformed.eachExtra)⟩
  · refine .inr ⟨name, query, place, rfl, hname, ?_⟩
    rw [places, hcolumns, hextras]
    rw [hplaces] at hrepeats
    exact hrepeats.append.first

/-- The check accepts exactly the documented definitions, in which no two columns or extras have
the same name, and loses nothing of what they say. A definition whose only fault is a repeated
name is refused for the first one, with the place where that name was declared first. -/
theorem ofJson_accepts_exactly (form : QueryForm) (raw : Json) :
    ((∃ definition, ofJson form raw = .ok definition) ↔
      ∃ members : Json.Members, raw = .object members ∧ Acceptable form members) ∧
    (∀ definition, ofJson form raw = .ok definition →
      ∃ members : Json.Members, raw = .object members ∧ Describes form members definition) ∧
    (∀ name query place, ofJson form raw = .error (.duplicateName name query place) →
      ∃ members : Json.Members, raw = .object members ∧
        members.get? "name" = some (.string query) ∧
        FirstRepetition (places members) name place) ∧
    (∀ members : Json.Members, raw = .object members → Formed form members →
      ¬ DistinctNames members →
      ∃ name query place, ofJson form raw = .error (.duplicateName name query place)) := by
  refine ⟨?_, fun definition => ofJson_eq_ok_iff_describes.mp, ?_, ?_⟩
  · simp only [ofJson_eq_ok_iff_describes, acceptable_iff]
    constructor
    · rintro ⟨definition, members, heq, hdescribes⟩
      exact ⟨members, heq, definition, hdescribes⟩
    · rintro ⟨members, heq, definition, hdescribes⟩
      exact ⟨definition, members, heq, hdescribes⟩
  · intro name query place h
    cases raw with
    | object members =>
      rcases ofJson_object_error h with ⟨hunrepeated, -⟩ | ⟨_, _, _, ⟨rfl⟩, hname, hfirst⟩
      · cases hunrepeated
      · exact ⟨members, rfl, hname, hfirst⟩
    | _ => cases h
  · rintro members rfl hformed hrepeated
    cases hresult : ofJson form (.object members) with
    | ok definition =>
      obtain ⟨_, ⟨rfl⟩, hdescribes⟩ := ofJson_eq_ok_iff_describes.mp hresult
      exact absurd (acceptable_iff.mpr ⟨definition, hdescribes⟩).names hrepeated
    | error error =>
      -- Formed members can be refused for a repetition only.
      rcases ofJson_object_error hresult with ⟨-, hunformed⟩ | ⟨name, query, place, rfl, -⟩
      · exact absurd hformed hunformed
      · exact ⟨name, query, place, rfl⟩

/-- A definition whose first two columns are left out, with the given extras. -/
def sparse (extras : List Json) : Json.Members :=
  [("columns", .array [.null, .object [],
      .object [("name", .string "a"), ("type", .string "gauge")],
      .object [("name", .string "b"), ("type", .string "tag")]]),
    ("extras", .array extras), ("name", .string "q"), ("query", .string "select")]

/-- An extra without a type, which is an expression. -/
def sumExtra : Json :=
  .object [("expression", .string "a + 1"), ("name", .string "sum"), ("type", .null)]

/-- An extra with the name of the third column. -/
def shareExtra : Json :=
  .object [("name", .string "a"), ("part", .string "b"), ("type", .string "percent")]

/-- A definition with positions left out is accepted, and the name that repeats is found at its
third position. -/
theorem ofJson_accepts_exactly_sparse : Acceptable .textOnly (sparse [sumExtra]) ∧
    FirstRepetition (places (sparse [sumExtra, shareExtra, sumExtra])) "a" (.column 3) := by
  obtain ⟨haccepts, -⟩ := ofJson_accepts_exactly .textOnly (.object (sparse [sumExtra]))
  obtain ⟨-, -, hrefuses, -⟩ := ofJson_accepts_exactly .textOnly
    (.object (sparse [sumExtra, shareExtra, sumExtra]))
  constructor
  · obtain ⟨_, ⟨rfl⟩, hacceptable⟩ := haccepts.mp ⟨_, rfl⟩
    exact hacceptable
  · obtain ⟨_, ⟨rfl⟩, -, hfirst⟩ := hrefuses "a" "q" (.column 3) rfl
    exact hfirst

end

end Definition

end RowSignals
