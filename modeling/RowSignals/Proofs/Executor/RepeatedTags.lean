import RowSignals.Manager
import RowSignals.Proofs.Executor.Isolation
import RowSignals.Proofs.Query.Tags

/-!
# Repeated tags

The tags of a row are without repeats, however the tags of the options, of the query, of the run
and of the row overlap. A list of tags that a transformer has of its own is taken as it stands.
So are the tags of the options in front of the tag of an operation time.

* `Params.Lists`: the list of tags that parameters have of their own.
* `Query.SubmittedBy`: the signals of a row, with the parameters that they are submitted with.
* `Query.rowActivity_tagged`, `Query.run_tagged`: the tags of all that a row and a query submit.
* `Executor.mem_signals_execute`: the signals of an execution.
* `Life.repeated_tags`: which signals of an execution repeat a tag.
-/

namespace RowSignals

open Calendar (Instant)

/-- The parameters have a list of tags of their own. -/
def Params.Lists (params : Params) (tags : List String) : Prop :=
  ∃ own, params.find? "tags" = some own ∧ own.strings? = some tags

/-- The signal has no tags, or tags without repeats. -/
def Signal.TaggedOnce (signal : Signal) : Prop :=
  ∀ tags, signal.tags? = some tags → tags.Nodup

/-- Apart from a list of its own, what is submitted repeats no tag that the row does not repeat. -/
theorem Signal.TaggedBy.taggedOnce {params : Params} {rowTags : List String} {signal : Signal}
    (h : signal.TaggedBy params rowTags) (hrow : rowTags.Nodup) :
    signal.TaggedOnce ∨ ∃ tags, signal.tags? = some tags ∧ params.Lists tags := by
  cases htags : signal.tags? with
  | none =>
    refine .inl fun tags hsome => ?_
    rw [htags] at hsome
    cases hsome
  | some tags =>
    have hgives : params.Gives rowTags tags := h tags htags
    unfold Params.Gives at hgives
    split at hgives
    · refine .inl fun other hother => ?_
      cases htags.symm.trans hother
      rwa [hgives]
    · rename_i own hown
      exact .inr ⟨tags, rfl, own, hown, hgives⟩

/-! ## Rows -/

namespace Query

/-- `query.SubmittedBy ctx row params signal`: a column or an extra of the query submits the signal
for a row, with these parameters. An extra sees what those before it leave. -/
inductive SubmittedBy (query : Query) (ctx : RowContext) (row : Row) : Params → Signal → Prop
  | column {column : Column} {field : Field} {signal : Signal} : column ∈ query.columns →
    query.definition.columns[column.index]? = some (some field) →
    signal ∈ (columnActivity ctx row column).signals →
    SubmittedBy query ctx row (field.submitParams (cell row column)) signal
  | extra {before after : List Extra} {extra : Extra} {field : Field} {signal : Signal} :
    query.extras = before ++ extra :: after →
    query.definition.extras[before.length]? = some field →
    signal ∈ (extraActivity (ctx.afterExtras before) extra).2.signals →
    SubmittedBy query ctx row field.params signal

section
variable {compileOptions : CompileOptions} {raw : Json} {query : Query}

/-- The kinds of extras are known once a query is compiled. -/
theorem extraKind_of_ofJson (h : ofJson compileOptions raw = .ok query) {field : Field}
    (hfield : field ∈ query.definition.extras) : (ExtraKind.ofName? field.kind).isSome := by
  obtain ⟨definition, hdefinition, hcompiled⟩ := bind_eq_ok.mp h
  obtain ⟨members, -, hchecked⟩ := Definition.ofJson_eq_ok_iff.mp hdefinition
  rw [definition_of_ofDefinition hcompiled] at hfield
  exact hchecked.extraKinds field hfield

/-- What a row submits has the tags that the parameters of its column or extra ask for. -/
theorem rowActivity_tagged (hquery : ofJson compileOptions raw = .ok query) (options : Options)
    (base : List String) (now : Instant) (row : Row) :
    (query.rowActivity options base now row).Submits fun signal =>
      ∃ params, query.SubmittedBy (query.rowContext options base now row) row params signal ∧
        signal.TaggedBy params (query.tagsOf base row) := by
  have h := compiled_of_ofJson hquery
  refine rowActivity_submits ?_ ?_
  · intro column hcolumn signal hsignal
    obtain ⟨field, hfield, -, htransformer⟩ := h.exists_field hcolumn
    refine ⟨_, .column hcolumn hfield hsignal, ?_⟩
    rw [columnActivity_signals] at hsignal
    exact (Transformer.apply_tagged htransformer _).outcome signal hsignal
  · intro before extra after hextras signal hsignal
    obtain ⟨field, hfield, -, haction⟩ := (extrasOf_eq_ok h.extras).2 before extra after hextras
    have hkind := extraKind_of_ofJson hquery (List.mem_of_getElem? hfield)
    refine ⟨_, .extra hextras hfield hsignal, ?_⟩
    rw [extraActivity_signals] at hsignal
    have htagged := (Extra.apply_tagged hkind haction).outcome signal hsignal
    rwa [RowContext.tags_afterExtras] at htagged

theorem nodup_tagsOf (query : Query) (base : List String) (row : Row) :
    (query.tagsOf base row).Nodup :=
  (nodup_mem_firstOccurrences _).1

/-- What a query submits repeats no tag, except in a list of tags that belongs to the column or
the extra that submits it. -/
theorem run_tagged (hquery : ofJson compileOptions raw = .ok query) (runner : Runner)
    (options : Options) (extraTags : List String) (now : Instant) :
    (query.run runner options extraTags now).Submits fun signal => signal.TaggedOnce ∨
      ∃ row params tags, query.SubmittedBy
          (query.rowContext options (query.baseTags options extraTags) now row) row params signal ∧
        signal.tags? = some tags ∧ params.Lists tags := by
  refine run_submits_of_rows runner fun row signal hsignal => ?_
  obtain ⟨params, hsubmitted, htagged⟩ := rowActivity_tagged hquery options _ now row signal hsignal
  rcases htagged.taggedOnce (query.nodup_tagsOf _ row) with honce | ⟨tags, htags, hlists⟩
  · exact .inl honce
  · exact .inr ⟨row, params, tags, hsubmitted, htags, hlists⟩

end

end Query

/-! ## Executions -/

namespace Executor

section
variable {options : Options} {extraTags : List String} {query : Query} {signal : Signal}

/-- The signals of the time that a query took: none without a metric for it, and one with the
tags of the options and the name of the query otherwise. -/
theorem mem_signals_operationTime : signal ∈ (operationTime options query).signals ↔
    ∃ metric, options.operationTimeMetric = some metric ∧
      signal = .operationTime metric (options.tags ++ ["operation:" ++ query.name])
        options.hostname := by
  unfold operationTime
  cases options.operationTimeMetric with
  | none => exact iff_of_false nofun nofun
  | some metric =>
    constructor
    · exact fun h => ⟨metric, rfl, List.mem_singleton.mp h⟩
    · rintro ⟨_, heq, rfl⟩
      cases heq
      exact List.mem_singleton_self _

/-- A turn submits nothing, or what its query submits and the operation time. -/
theorem mem_signals_turnActivity {turn : Turn} :
    signal ∈ (turnActivity options extraTags turn).signals ↔ turn.runs = true ∧
      (signal ∈ (turn.query.run turn.moment.runner options extraTags turn.moment.now).signals ∨
        signal ∈ (operationTime options turn.query).signals) := by
  unfold turnActivity
  split
  · rename_i hruns
    rw [Activity.signals_append, List.mem_append]
    exact (and_iff_right hruns).symm
  · rename_i hruns
    exact iff_of_false nofun fun h => hruns h.1

/-- An execution submits what its turns submit. -/
theorem mem_signals_execute {executor : Executor} {moments : Nat → Moment} :
    signal ∈ (executor.execute moments extraTags).2.signals ↔ ∃ turn ∈ executor.turns moments,
      signal ∈ (turnActivity executor.options extraTags turn).signals := by
  show signal ∈ (Activity.join ((executor.turns moments).map _)).signals ↔ _
  rw [Activity.signals_join, List.flatMap_map, List.mem_flatMap]

/-- The operation time of a query repeats no tag if the options repeat none, and do not have the
tag that is put behind theirs. -/
theorem operationTime_taggedOnce_iff :
    (operationTime options query).Submits Signal.TaggedOnce ↔
      (options.operationTimeMetric.isSome →
        options.tags.Nodup ∧ "operation:" ++ query.name ∉ options.tags) := by
  have hnodup : (options.tags ++ ["operation:" ++ query.name]).Nodup
      ↔ options.tags.Nodup ∧ "operation:" ++ query.name ∉ options.tags := by
    rw [← List.concat_eq_append, List.nodup_concat, and_comm]
  rw [← hnodup]
  constructor
  · intro h hsome
    obtain ⟨metric, hmetric⟩ := Option.isSome_iff_exists.mp hsome
    exact h _ (mem_signals_operationTime.mpr ⟨metric, hmetric, rfl⟩) _ rfl
  · intro h signal hsignal tags htags
    obtain ⟨metric, hmetric, rfl⟩ := mem_signals_operationTime.mp hsignal
    cases htags
    exact h (Option.isSome_of_mem hmetric)

end

end Executor

namespace Life

/-- What repeats a tag, in any execution at any point of any life. A signal of a row does only if
the column or the extra that submits it has a list of tags that does. The operation times do
exactly if the options repeat a tag, or already have the tag that names the operation. -/
theorem repeated_tags (options : Options) (definitions : List Json) (steps : List Step)
    (moments : Nat → Executor.Moment) (extraTags : List String) :
    let executor := ((new options definitions).after steps).executor
    let signals := (executor.execute moments extraTags).2.signals
    (∀ signal ∈ signals, signal.OfRow → signal.TaggedOnce ∨
      ∃ turn ∈ executor.turns moments, turn.runs = true ∧ ∃ row params tags,
        turn.query.SubmittedBy (turn.query.rowContext options
          (turn.query.baseTags options extraTags) turn.moment.now row) row params signal ∧
        signal.tags? = some tags ∧ params.Lists tags) ∧
    ((∀ signal ∈ signals, ¬ signal.OfRow → signal.TaggedOnce) ↔
      ∀ turn ∈ executor.turns moments, turn.runs = true → options.operationTimeMetric.isSome →
        options.tags.Nodup ∧ "operation:" ++ turn.query.name ∉ options.tags) := by
  intro executor signals
  have hlife : ((new options definitions).after steps).Consistent :=
    consistent options definitions steps
  have hoptions : executor.options = options := options_after _ steps
  have hsignals (signal : Signal) : signal ∈ signals ↔ ∃ turn ∈ executor.turns moments,
      signal ∈ (Executor.turnActivity options extraTags turn).signals :=
    hoptions ▸ Executor.mem_signals_execute
  constructor
  · intro signal hsignal hrow
    obtain ⟨turn, hturn, hsignal⟩ := (hsignals signal).mp hsignal
    -- the run of a query, or the gauge of its time, which is no signal of a row
    obtain ⟨hruns, hrun | htime⟩ := Executor.mem_signals_turnActivity.mp hsignal
    · have hquery : turn.query ∈ executor.queries := by
        rw [← hlife.map_turns moments]
        exact List.mem_map_of_mem hturn
      obtain ⟨raw, -, hok⟩ := hlife.pipelines.exists_raw hquery
      rcases Query.run_tagged hok _ options extraTags _ signal hrun with honce | hlists
      · exact .inl honce
      · exact .inr ⟨turn, hturn, hruns, hlists⟩
    · obtain ⟨metric, -, rfl⟩ := Executor.mem_signals_operationTime.mp htime
      exact hrow.elim
  · constructor
    · intro h turn hturn hruns
      rw [← Executor.operationTime_taggedOnce_iff]
      intro signal htime
      refine h signal ((hsignals signal).mpr ⟨turn, hturn, ?_⟩) ?_
      · exact Executor.mem_signals_turnActivity.mpr ⟨hruns, .inr htime⟩
      · obtain ⟨metric, -, rfl⟩ := Executor.mem_signals_operationTime.mp htime
        exact id
    · intro h signal hsignal hrow
      obtain ⟨turn, hturn, hsignal⟩ := (hsignals signal).mp hsignal
      obtain ⟨hruns, hrun | htime⟩ := Executor.mem_signals_turnActivity.mp hsignal
      · exact absurd (turn.query.run_submits _ options extraTags _ signal hrun) hrow
      · exact Executor.operationTime_taggedOnce_iff.mpr (h turn hturn hruns) signal htime

/-- A tag of an instance that the options have too is twice among the tags of an operation time,
which no list of tags of a column or an extra asks for. -/
theorem repeated_tags_overlapping_scopes :
    let options : Options :=
      { Options.default with tags := ["env:prod"], operationTimeMetric := some "t" }
    let manager := Manager.new [metadataDefinition "q"] {} { tags := ["env:prod"] } options
    let executor := ((⟨manager.executor, []⟩ : Life).after [.compile]).executor
    let time : Signal := .operationTime "t" ["env:prod", "env:prod", "operation:q"] none
    (executor.execute (fun _ => ⟨⟨0, 0⟩, fun _ => .rows [] none⟩) []).2.signals = [time] ∧
    ¬ time.OfRow ∧ ¬ time.TaggedOnce := by
  intro options manager executor time
  refine ⟨rfl, id, fun h => ?_⟩
  have hnodup : ["env:prod", "env:prod", "operation:q"].Nodup := h _ rfl
  revert hnodup
  decide

end Life

end RowSignals
