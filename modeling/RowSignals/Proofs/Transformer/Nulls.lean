import RowSignals.Extra
import RowSignals.Proofs.Json.Nulls

/-!
# Parameters without nulls

Everything that is compiled from parameters asks for values that are there and not null. So
parameters that find the same say the same, errors included, and nulls may be dropped.

* `Submission.ofParams_of_find?`, `Extra.ofField_of_find?`: parameters that find the same.
* `Transformer.dispatchOf_withoutItemNulls`: the nulls of match items.
-/

namespace RowSignals

/-! ## Parameters that find the same -/

section
variable {params others : Params} (h : ∀ key, others.find? key = params.find? key)
include h

/-- A required parameter depends only on what is found, and so does each reading below. -/
theorem Params.required_of_find? (key : String) : others.required key = params.required key := by
  simp only [required, h]

theorem Params.requiredText_of_find? (key : String) :
    others.requiredText key = params.requiredText key := by
  simp only [requiredText, required_of_find? h]

theorem Params.requiredMapping_of_find? (key : String) :
    others.requiredMapping key = params.requiredMapping key := by
  simp only [requiredMapping, required_of_find? h]

theorem Params.nonEmptyText_of_find? (key : String) :
    others.nonEmptyText key = params.nonEmptyText key := by
  simp only [nonEmptyText, requiredText_of_find? h]

theorem Params.optionalText_of_find? (key : String) :
    others.optionalText key = params.optionalText key := by
  simp only [optionalText, h]

theorem Params.flag_of_find? (key : String) : others.flag key = params.flag key := by
  simp only [flag, h]

theorem Params.tags_of_find? : others.tags = params.tags := by
  simp only [tags, h]

/-! ## Submissions -/

/-- A scheme of versions is made of what is found in its parameters. -/
theorem VersionScheme.ofParams_of_find? : ofParams others = ofParams params := by
  simp only [ofParams, Params.optionalText_of_find? h, Params.nonEmptyText_of_find? h]

/-- A metric is made of what is found in its parameters. -/
theorem Submitter.ofParams_of_find? (scope : Scope) (kind : MetricKind) (name : String) :
    ofParams scope kind name others = ofParams scope kind name params := by
  simp only [ofParams, Params.tags_of_find? h, Params.flag_of_find? h]

theorem scaleOfParams_of_find? : scaleOfParams others = scaleOfParams params := by
  simp only [scaleOfParams, Params.required_of_find? h]

/-- A service check is made of what is found in its parameters. -/
theorem ServiceCheck.ofParams_of_find? (scope : Scope) (name : String) :
    ofParams scope name others = ofParams scope name params := by
  simp only [ofParams, Params.requiredMapping_of_find? h, Params.optionalText_of_find? h,
    Params.tags_of_find? h, Params.flag_of_find? h]

/-- Parameters that find the same make the same submission. -/
theorem Submission.ofParams_of_find? (scope : Scope) (kind : SubmitKind) (name : String) :
    ofParams scope kind name others = ofParams scope kind name params := by
  cases kind with
  | metric kind => simp only [ofParams, Submitter.ofParams_of_find? h]
  | monotonicGauge => simp only [ofParams, Submitter.ofParams_of_find? h]
  | temporalPercent => simp only [ofParams, Submitter.ofParams_of_find? h, scaleOfParams_of_find? h]
  | serviceCheck => simp only [ofParams, ServiceCheck.ofParams_of_find? h]
  | timeElapsed =>
    simp only [ofParams, Params.optionalText_of_find? h, Submitter.ofParams_of_find? h]
  | metadata => simp only [ofParams, VersionScheme.ofParams_of_find? h]

/-! ## Extras -/

/-- An item is made of what is found in it, whatever else stands there. -/
theorem Branch.ofItem_of_find? (scope : Scope) (columnSource : Option String) (key : String) :
    ofItem scope columnSource key (.object others)
      = ofItem scope columnSource key (.object params) := by
  simp only [ofItem, requiredText, sourceOf, h, Submission.ofParams_of_find? h]

/-- The items of a column are those that are found in its parameters. -/
theorem Transformer.dispatchOf_of_find? (scope : Scope) :
    dispatchOf scope others = dispatchOf scope params := by
  simp only [dispatchOf, Params.requiredMapping_of_find? h, Params.optionalText_of_find? h]

/-- Parameters that find the same make the same transformer. -/
theorem Transformer.ofParams_of_find? (scope : Scope) (kind name : String) :
    ofParams scope kind name others = ofParams scope kind name params := by
  unfold ofParams
  split
  · rename_i kind _
    cases kind with
    | tag => simp only [ofKind, Params.flag_of_find? h]
    | dispatch => exact dispatchOf_of_find? h scope
    | submit kind => simp only [ofKind, Submission.ofParams_of_find? h]
    | _ => rfl
  · rfl

/-- Parameters that find the same make the same extra. -/
theorem ExtraAction.ofParams_of_find? (scope : Scope) (kind name : String) :
    ofParams scope kind name others = ofParams scope kind name params := by
  unfold ofParams
  split
  · simp only [expressionOf, submissionOf, Params.nonEmptyText_of_find? h, Params.flag_of_find? h,
      Params.optionalText_of_find? h, Submission.ofParams_of_find? h]
  · simp only [percentOf, knownSource, Params.requiredText_of_find? h,
      Submitter.ofParams_of_find? h]
  · simp only [submitOf, knownSource, Params.requiredText_of_find? h,
      Transformer.ofParams_of_find? h]

end

/-! ## Nulls of match items -/

/-- Parameters whose match items have no nulls. -/
def Params.withoutItemNulls (params : Params) : Params :=
  Json.Members.updateAt "items" (Json.mapMembers Json.withoutNulls) params

/-- An item finds the same without its nulls, so it is the same. -/
theorem Branch.ofItem_withoutNulls (scope : Scope) (columnSource : Option String) (key : String)
    (raw : Json) :
    ofItem scope columnSource key raw.withoutNulls = ofItem scope columnSource key raw := by
  cases raw with
  | object item => exact ofItem_of_find? (Json.Members.present?_withoutNulls item) scope _ key
  | _ => rfl

/-- Dropping the nulls of items keeps their keys and their order. -/
theorem Params.requiredMapping_withoutItemNulls (params : Params) :
    requiredMapping params.withoutItemNulls "items"
      = (params.requiredMapping "items").map fun items =>
        items.map fun item => (item.1, item.2.withoutNulls) := by
  have hfind : find? params.withoutItemNulls "items"
      = (params.find? "items").map (Json.mapMembers Json.withoutNulls) :=
    Json.Members.present?_updateAt (Json.isNull_mapMembers _) "items" params
  simp only [requiredMapping, required, hfind]
  cases params.find? "items" with
  | none => rfl
  | some value => cases value <;> rfl

/-- The nulls of match items make no difference to a dispatching column. -/
theorem Transformer.dispatchOf_withoutItemNulls (scope : Scope) (params : Params) :
    dispatchOf scope params.withoutItemNulls = dispatchOf scope params := by
  have hsource : Params.optionalText params.withoutItemNulls "source"
      = params.optionalText "source" := by
    have hfind : Params.find? params.withoutItemNulls "source" = params.find? "source" :=
      Json.Members.present?_updateAt_of_ne (by decide) _ params
    simp only [Params.optionalText, hfind]
  simp only [dispatchOf, Params.requiredMapping_withoutItemNulls, hsource]
  cases params.requiredMapping "items" with
  | error error => rfl
  | ok items =>
    refine congrArg (params.optionalText "source" >>= ·) (funext fun source => ?_)
    simp only [List.mapM_map, Function.comp_def, Branch.ofItem_withoutNulls]

end RowSignals
