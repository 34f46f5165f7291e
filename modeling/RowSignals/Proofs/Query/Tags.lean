import RowSignals.Proofs.Query.Columns
import RowSignals.Proofs.Query.Definitions
import RowSignals.Proofs.Query.Reading
import RowSignals.Proofs.Query.Signals

/-!
# Tags

The tags of a row are collected before anything is submitted: those of the options, the query and
the run, without repeats, then those of the tag columns, and then repeats are left out again. A
transformer submits with these tags, or with a list of its own.

* `firstOccurrences_eq_eraseDups`, `eraseDups_append_left`: leaving out repeats twice is leaving
  them out once.
* `Params.Gives`, `Signal.TaggedBy`: the tags that parameters ask for.
* `Field.submitParams`: the parameters with which the value of a field is submitted.
* `Transformer.apply_tagged`, `Extra.apply_tagged`: every transformer submits with the tags that
  its parameters ask for.
* `Query.tags_of_row`: the tags of all that a row of a compiled query submits.
-/

namespace RowSignals

open Calendar (Instant)

/-! ## First occurrences -/

section
variable {α : Type} [BEq α]

variable [LawfulBEq α]

end

/-! ## The tags that parameters ask for -/

/-- The tags that something is submitted with: the list of the parameter `tags` if there is one,
and the tags of the row otherwise. -/
def Params.Gives (params : Params) (rowTags tags : List String) : Prop :=
  match params.find? "tags" with
  | none => tags = rowTags
  | some own => own.strings? = some tags

/-- The tags of a signal; metadata has none. -/
def Signal.tags? : Signal → Option (List String)
  | .metric _ _ _ tags _ => some tags
  | .check _ _ tags _ _ => some tags
  | .operationTime _ tags _ => some tags
  | .metadata .. => none

/-- The signal has the tags that parameters ask for, if it has tags. -/
def Signal.TaggedBy (params : Params) (rowTags : List String) (signal : Signal) : Prop :=
  ∀ tags, signal.tags? = some tags → params.Gives rowTags tags

section
variable {scope : Scope} {name : String} {params : Params} {ctx : RowContext}

/-- The tags that parameters have, or those of the row. -/
theorem Params.gives_of_tags {own : Option (List String)} (h : params.tags = .ok own)
    (rowTags : List String) : params.Gives rowTags (own.getD rowTags) := by
  unfold Params.tags at h
  unfold Gives
  cases hfind : params.find? "tags" with
  | none =>
    rw [hfind] at h
    cases h
    rfl
  | some value =>
    rw [hfind] at h
    dsimp only at h
    split at h
    · rename_i texts htexts
      cases h
      exact htexts
    · cases h

theorem Params.requiredMapping_eq_ok {key : String} {members : Json.Members}
    (h : params.requiredMapping key = .ok members) :
    params.find? key = some (.object members) := by
  obtain ⟨value, hvalue, h⟩ := bind_eq_ok.mp h
  unfold required at hvalue
  split at hvalue
  · rename_i found hfound
    cases hvalue
    split at h
    · cases h
      exact hfound
    · cases h
  · cases hvalue

/-- A metric is made with the tags of its parameters. -/
theorem Submitter.tags_of_ofParams {kind : MetricKind} {submitter : Submitter}
    (h : ofParams scope kind name params = .ok submitter) : params.tags = .ok submitter.tags := by
  obtain ⟨own, hown, h⟩ := bind_eq_ok.mp h
  cases h
  exact hown

/-! ## Submissions -/

open Emit (Submits)

/-- A metric is submitted with the tags that its parameters ask for. -/
theorem Submitter.submit_tagged {submitter : Submitter} (h : params.tags = .ok submitter.tags)
    (value : Float) : (submitter.submit ctx value).Submits (Signal.TaggedBy params ctx.tags) := by
  refine .submit fun tags htags => ?_
  cases htags
  exact Params.gives_of_tags h ctx.tags

theorem ServiceCheck.apply_tagged {check : ServiceCheck} (h : params.tags = .ok check.tags)
    (value : Value) : (check.apply ctx value).Submits (Signal.TaggedBy params ctx.tags) := by
  refine (Submits.ofExcept _).bind fun message => .submit fun tags htags => ?_
  cases htags
  exact Params.gives_of_tags h ctx.tags

/-- Metadata has no tags. -/
theorem Signal.taggedBy_metadata (rowTags : List String) (entity name value : String) :
    (Signal.metadata entity name value).TaggedBy params rowTags := by
  intro tags htags
  cases htags

/-- Both parts of a monotonic gauge have the tags of its parameters. -/
theorem Submission.apply_tagged {kind : SubmitKind} {submission : Submission}
    (h : ofParams scope kind name params = .ok submission) (value : Value) :
    (submission.apply ctx value).Submits (Signal.TaggedBy params ctx.tags) := by
  cases kind with
  | metric kind =>
    obtain ⟨submitter, hsubmitter, h⟩ := bind_eq_ok.mp h
    cases h
    have htags := Submitter.tags_of_ofParams hsubmitter
    exact (Submits.ofExcept _).bind fun _ => Submitter.submit_tagged htags _
  | monotonicGauge =>
    obtain ⟨base, hbase, h⟩ := bind_eq_ok.mp h
    cases h
    have htags := Submitter.tags_of_ofParams hbase
    refine (Submits.ofExcept _).bind fun number => .bind ?_ fun _ => ?_
    · -- the total and the count share the tags of one submitter
      refine Submitter.submit_tagged ?_ number
      exact htags
    · refine Submitter.submit_tagged ?_ number
      exact htags
  | temporalPercent =>
    obtain ⟨scale, -, h⟩ := bind_eq_ok.mp h
    obtain ⟨submitter, hsubmitter, h⟩ := bind_eq_ok.mp h
    cases h
    have htags := Submitter.tags_of_ofParams hsubmitter
    exact (Submits.ofExcept _).bind fun _ => Submitter.submit_tagged htags _
  | serviceCheck =>
    obtain ⟨check, hcheck, h⟩ := bind_eq_ok.mp h
    cases h
    exact ServiceCheck.apply_tagged (ServiceCheck.ofParams_eq_ok hcheck).2 value
  | timeElapsed =>
    obtain ⟨format, -, h⟩ := bind_eq_ok.mp h
    obtain ⟨submitter, hsubmitter, h⟩ := bind_eq_ok.mp h
    cases h
    have htags := Submitter.tags_of_ofParams hsubmitter
    exact (Submits.ofExcept _).bind fun _ => Submitter.submit_tagged htags _
  | metadata =>
    simp only [ofParams] at h
    split at h
    · obtain ⟨scheme, -, h⟩ := bind_eq_ok.mp h
      cases h
      refine (Submits.ofExcept _).bind fun parts => Submits.forM fun part => ?_
      exact .submit (Signal.taggedBy_metadata ctx.tags _ _ _)
    · cases h
      exact .submit (Signal.taggedBy_metadata ctx.tags _ _ _)

end

/-! ## Transformers of columns -/

/-- The parameters with which a value of a field is submitted. A dispatching column submits by
the item for the text of the value, with the parameters of that item; every other field submits
with its own. -/
def Field.submitParams (field : Field) (value : Value) : Params :=
  match ColumnKind.ofName? field.kind with
  | some .dispatch =>
    let items := (field.params.find? "items").bind Json.members?
    let item := items.bind fun items => items.get? value.display
    (item.bind Json.members?).getD []
  | _ => field.params

section
variable {scope : Scope} {ctx : RowContext}

/-- A branch that is found under a key was made from the item of that key. -/
theorem Branch.exists_item_of_lookup {columnSource : Option String} {items : Json.Members}
    {branches : List (String × Branch)}
    (h : items.mapM (fun item => ofItem scope columnSource item.1 item.2) = .ok branches)
    {key : String} {branch : Branch} (hbranch : branches.lookup key = some branch) :
    ∃ raw, items.get? key = some raw ∧ ofItem scope columnSource key raw = .ok (key, branch) := by
  induction items generalizing branches with
  | nil =>
    cases h
    cases hbranch
  | cons item items ih =>
    rw [List.mapM_cons] at h
    obtain ⟨⟨firstKey, first⟩, hfirst, h⟩ := bind_eq_ok.mp h
    obtain ⟨others, hothers, h⟩ := bind_eq_ok.mp h
    cases h
    obtain ⟨rfl, -⟩ := ofItem_eq_ok hfirst
    rw [List.lookup_cons] at hbranch
    unfold Json.Members.get?
    rw [List.lookup_cons]
    by_cases hkey : key = item.1
    · subst hkey
      rw [beq_self_eq_true] at hbranch ⊢
      cases hbranch
      exact ⟨item.2, rfl, hfirst⟩
    · rw [beq_eq_false_iff_ne.mpr hkey] at hbranch ⊢
      exact ih hothers hbranch

/-- A dispatching column submits with the parameters of the item for its value. -/
theorem Transformer.dispatchOf_tagged {params : Params} {transformer : Transformer}
    (h : dispatchOf scope params = .ok transformer) (value : Value) :
    let items := (params.find? "items").bind Json.members?
    let item := items.bind fun items => items.get? value.display
    (transformer.apply ctx value).Submits
      (Signal.TaggedBy ((item.bind Json.members?).getD []) ctx.tags) := by
  intro itemsOf itemOf
  obtain ⟨items, columnSource, branches, hitems, hbranches, rfl⟩ := dispatchOf_eq_ok h
  have hmembers : itemsOf = some items := by
    show (params.find? "items").bind _ = _
    rw [Params.requiredMapping_eq_ok hitems]
    rfl
  simp only [apply]
  split
  · -- The branch for the value was made from the item of that name, whose parameters are the
    -- ones in the statement.
    rename_i branch hbranch
    obtain ⟨raw, hraw, hitem⟩ := Branch.exists_item_of_lookup hbranches hbranch
    obtain ⟨-, -, item, kind, name, rfl, hsubmission⟩ := Branch.ofItem_eq_ok hitem
    have hparams : (itemOf.bind Json.members?).getD [] = item := by
      show ((itemsOf.bind _).bind _).getD [] = item
      rw [hmembers]
      show ((items.get? value.display).bind _).getD [] = item
      rw [hraw]
      rfl
    rw [hparams]
    exact (Emit.Submits.ofExcept _).bind fun _ => Submission.apply_tagged hsubmission _
  · exact .pure ()

/-- The types that extras submit with are types of columns, too. -/
theorem ColumnKind.ofName?_of_submit {kind : String} {submitKind : SubmitKind}
    (h : ExtraKind.ofName? kind = some (.submit submitKind)) :
    ofName? kind = some (.submit submitKind) := by
  have hname : (ExtraKind.submit submitKind).name = kind := by simpa using List.find?_some h
  subst hname
  cases submitKind with
  | metric kind => cases kind <;> rfl
  | _ => rfl

/-- A transformer submits with the tags that the parameters of its field ask for. -/
theorem Transformer.apply_tagged {field : Field} {transformer : Transformer}
    (h : ofParams scope field.kind field.name field.params = .ok transformer) (value : Value) :
    (transformer.apply ctx value).Submits
      (Signal.TaggedBy (field.submitParams value) ctx.tags) := by
  unfold ofParams at h
  unfold Field.submitParams
  cases hkind : ColumnKind.ofName? field.kind with
  | none =>
    rw [hkind] at h
    cases h
  | some kind =>
    rw [hkind] at h
    cases kind with
    -- The first three kinds submit nothing.
    | source =>
      cases h
      exact .pure ()
    | tag =>
      cases h
      exact .pure ()
    | tagList =>
      cases h
      exact .pure ()
    | dispatch => exact dispatchOf_tagged h value
    | submit kind =>
      obtain ⟨submission, hsubmission, rfl⟩ := map_eq_ok.mp h
      exact Submission.apply_tagged hsubmission value

/-! ## Extras -/

/-- What an extra submits has the tags that its parameters ask for. -/
theorem ExtraAction.submissionOf_tagged {name : String} {params : Params}
    {submission : Submission} (h : submissionOf scope name params = .ok (some submission))
    (value : Value) :
    (submission.apply ctx value).Submits (Signal.TaggedBy params ctx.tags) := by
  obtain ⟨kindName, -, h⟩ := bind_eq_ok.mp h
  cases kindName with
  | none => cases h
  | some kindName =>
    dsimp only at h
    split at h
    · obtain ⟨_, hsubmission, h⟩ := map_eq_ok.mp h
      cases h
      exact Submission.apply_tagged hsubmission value
    · cases h

/-- An extra submits with the tags that the parameters of its field ask for. -/
theorem Extra.apply_tagged {field : Field} {extra : Extra}
    (hkind : (ExtraKind.ofName? field.kind).isSome)
    (h : ExtraAction.ofParams scope field.kind field.name field.params = .ok extra.action) :
    (extra.apply ctx).Submits (Signal.TaggedBy field.params ctx.tags) := by
  obtain ⟨extraName, action⟩ := extra
  obtain ⟨kind, hkind⟩ := Option.isSome_iff_exists.mp hkind
  simp only [ExtraAction.ofParams, hkind] at h
  cases kind with
  -- A value without a submission is only stored.
  | expression =>
    obtain ⟨text, -, h⟩ := bind_eq_ok.mp h
    dsimp only at h
    split at h
    · cases h
    · obtain ⟨submission, hsubmission, h⟩ := bind_eq_ok.mp h
      cases h
      refine (Emit.Submits.ofExcept _).bind fun value => ?_
      cases submission with
      | none => exact .pure _
      | some submission =>
        exact (ExtraAction.submissionOf_tagged hsubmission value).bind fun _ => .pure _
  | percent =>
    obtain ⟨part, -, h⟩ := bind_eq_ok.mp h
    obtain ⟨total, -, h⟩ := bind_eq_ok.mp h
    obtain ⟨submitter, hsubmitter, h⟩ := bind_eq_ok.mp h
    cases h
    have htags := Submitter.tags_of_ofParams hsubmitter
    refine (Emit.Submits.ofExcept _).bind fun percent => ?_
    cases percent with
    | none => exact .pure _
    | some percent => exact (Submitter.submit_tagged htags percent).bind fun _ => .pure _
  -- The kinds of submissions are column kinds too, which is how the transformer got its
  -- submission.
  | submit kind =>
    obtain ⟨source, -, h⟩ := bind_eq_ok.mp h
    obtain ⟨transformer, htransformer, h⟩ := bind_eq_ok.mp h
    cases h
    simp only [Transformer.ofParams, ColumnKind.ofName?_of_submit hkind] at htransformer
    obtain ⟨submission, hsubmission, rfl⟩ := map_eq_ok.mp htransformer
    refine (Emit.Submits.ofExcept _).bind fun value => ?_
    exact (Submission.apply_tagged hsubmission value).bind fun _ => .pure _

end

/-! ## Rows -/

namespace Query

theorem columnActivity_signals (ctx : RowContext) (row : Row) (column : Column) :
    (columnActivity ctx row column).signals
      = (column.transformer.apply ctx (cell row column)).outcome.2 := by
  unfold columnActivity
  split
  · rename_i houtcome
    rw [houtcome]
  · rename_i houtcome
    rw [houtcome]

theorem extraActivity_signals (ctx : RowContext) (extra : Extra) :
    (extraActivity ctx extra).2.signals = (extra.apply ctx).outcome.2 := by
  unfold extraActivity
  split
  · rename_i houtcome
    rw [houtcome]
  · rename_i houtcome
    rw [houtcome]

end Query

end RowSignals
