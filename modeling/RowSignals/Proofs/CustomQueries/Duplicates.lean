import RowSignals.Proofs.CustomQueries.Merging
import RowSignals.Proofs.Definition.Repetition
import RowSignals.Proofs.Executor.Runs

/-!
# Duplicate queries

Definitions are refused for a repeated query name only if the name is really there twice. No
other step of a compilation reports one.

* `Query.ofJson_ne_duplicateQuery`: a single definition is not refused for it.
* `definitionName?_of_ofJson`: a query has the name of its definition.
* `Executor.count_of_duplicateQuery`: how often the reported name is there.
-/

namespace RowSignals

/-! ## Single definitions -/

namespace Query

section
variable {definition : Definition} {scope : Scope} {query : String} {error : DefinitionError}

theorem hostnameOf_unrepeated {sources : List String}
    (h : hostnameOf definition sources = .error error) : error.isRepetition = false := by
  unfold hostnameOf at h
  split at h
  · cases h
  · split at h
    · cases h
      rfl
    · cases h

/-- Compiling columns finds no repetition, and neither do extras or the host name. -/
theorem columnsFrom_unrepeated {index : Nat} {fields : List (Option Field)}
    (h : columnsFrom scope query index fields = .error error) : error.isRepetition = false := by
  induction fields generalizing index with
  | nil => cases h
  | cons field fields ih =>
    cases field with
    | none => exact ih h
    | some field =>
      unfold columnsFrom at h
      split at h
      · cases h
        rfl
      · exact ih (error_of_bind (fun _ => ⟨_, rfl⟩) h)

theorem extrasOf_unrepeated {fields : List Field}
    (h : extrasOf scope query fields = .error error) : error.isRepetition = false := by
  induction fields generalizing scope with
  | nil => cases h
  | cons field fields ih =>
    rcases bind_eq_error.mp h with hextra | ⟨extra, -, h⟩
    · unfold Extra.ofField at hextra
      split at hextra
      · cases hextra
      · cases hextra
        rfl
    · exact ih (error_of_bind (fun _ => ⟨_, rfl⟩) h)

/-- So compiling a checked definition finds no repetition: the check had found it. -/
theorem ofDefinition_unrepeated {options : CompileOptions} {identity : Identity}
    (h : ofDefinition options identity definition = .error error) :
    error.isRepetition = false := by
  rcases bind_eq_error.mp h with hhostname | ⟨_, -, h⟩
  · exact hostnameOf_unrepeated hhostname
  rcases bind_eq_error.mp h with hcolumns | ⟨_, -, h⟩
  · exact columnsFrom_unrepeated hcolumns
  exact extrasOf_unrepeated (error_of_bind (fun _ => ⟨_, rfl⟩) h)

end

/-- A single definition may repeat names of columns and extras, but not the name of a query. -/
theorem ofJson_ne_duplicateQuery (options : CompileOptions) (raw : Json) (name : String) :
    ofJson options raw ≠ .error (.duplicateQuery name) := by
  intro h
  rcases bind_eq_error.mp h with hdefinition | ⟨definition, -, h⟩
  · cases raw with
    | object members =>
      rcases Definition.ofJson_object_error hdefinition with ⟨hunrepeated, -⟩ | ⟨_, _, _, heq, -⟩
      · cases hunrepeated
      · cases heq
    | _ => cases hdefinition
  · cases ofDefinition_unrepeated h

end Query

/-- A query that was compiled has the name of its definition. -/
theorem definitionName?_of_ofJson {options : CompileOptions} {raw : Json} {query : Query}
    (h : Query.ofJson options raw = .ok query) : definitionName? raw = some query.name := by
  obtain ⟨definition, hdefinition, h⟩ := bind_eq_ok.mp h
  obtain ⟨members, rfl, hdescribes⟩ := Definition.ofJson_eq_ok_iff_describes.mp hdefinition
  show (members.get? "name").bind Json.string? = some query.definition.name
  rw [hdescribes.name, Query.definition_of_ofDefinition h]
  rfl

/-! ## Several definitions -/

namespace Executor

/-- A name that is reported as defined twice is really there twice, counting those that went
before. -/
theorem count_of_duplicateQuery {options : CompileOptions} {seen : List String}
    {definitions : List Json} {name : String}
    (h : compileFrom options seen definitions = .error (.duplicateQuery name)) :
    2 ≤ (seen ++ definitionNames definitions).count name := by
  induction definitions generalizing seen with
  | nil => cases h
  | cons raw definitions ih =>
    rcases bind_eq_error.mp h with hquery | ⟨query, hquery, h⟩
    · exact absurd hquery (Query.ofJson_ne_duplicateQuery options raw name)
    have hnames : definitionNames (raw :: definitions)
        = query.name :: definitionNames definitions := by
      rw [definitionNames, List.filterMap_cons, definitionName?_of_ofJson hquery]
      rfl
    rw [hnames]
    split at h
    · rename_i hseen
      cases h
      have hbefore : 0 < seen.count query.name :=
        List.count_pos_iff.mpr (List.contains_iff_mem.mp hseen)
      rw [List.count_append, List.count_cons_self]
      omega
    · have hrest := error_of_bind (fun _ => ⟨_, rfl⟩) h
      -- the name of the query moves from the definitions to the names before them
      rw [List.perm_middle.count_eq]
      exact ih hrest

end Executor

end RowSignals
