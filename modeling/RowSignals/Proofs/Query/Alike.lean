import RowSignals.Proofs.Query.Columns
import RowSignals.Proofs.Query.Reading

/-!
# Rows that differ in order only

Transformers and extras ask which value a name is bound to and hand the tags of their row on. So
two rows that bind the same values, with the same tags in another order, cause the same signals
up to the order of tags, and the same log entries.

* `Signal.withTagSet`: a signal whose tags are compared as a set.
* `Emit.Alike`: emissions with the same outcome and the same signals up to the order of tags.
* `RowContext.Alike`: what transformers see, up to order; `Transformer.apply_alike`,
  `Extra.apply_alike`.
* `Query.extrasActivity_alike`: the extras of a row, one after the other.
* `Query.Bound.perm_alike`: the columns of a row, in any order.
-/

namespace RowSignals

/-- A signal without its tags, and the set of its tags. -/
def Signal.withTagSet : Signal → Signal × Finset String
  | .metric kind name value tags hostname => (.metric kind name value [] hostname, tags.toFinset)
  | .check name status tags hostname message =>
    (.check name status [] hostname message, tags.toFinset)
  | .metadata entity name value => (.metadata entity name value, ∅)
  | .operationTime name tags hostname => (.operationTime name [] hostname, tags.toFinset)

/-! ## Emissions -/

namespace Emit

variable {α β : Type}

/-- After signals that are the same up to the order of tags, both emissions have the same result,
and the signals are then the same up to the order of tags. -/
def Alike (emit other : Emit α) : Prop :=
  ∀ signals others, others.map Signal.withTagSet = signals.map Signal.withTagSet →
    (other.after others).1 = (emit.after signals).1 ∧
      (other.after others).2.map Signal.withTagSet
        = (emit.after signals).2.map Signal.withTagSet

theorem Alike.pure (a : α) : Alike (pure a : Emit α) (pure a) := by
  intro signals others h
  exact ⟨rfl, h⟩

theorem Alike.ofExcept (result : Except RowError α) :
    Alike (ofExcept result) (ofExcept result) := by
  intro signals others h
  rw [after_ofExcept, after_ofExcept]
  exact ⟨rfl, h⟩

/-- Signals that are the same up to the order of tags are submitted alike. -/
theorem Alike.submit {signal other : Signal} (h : other.withTagSet = signal.withTagSet) :
    Alike (submit signal) (submit other) := by
  intro signals others hsignals
  rw [after_submit, after_submit]
  refine ⟨rfl, ?_⟩
  show (others ++ [other]).map _ = (signals ++ [signal]).map _
  rw [List.map_append, List.map_append, hsignals, List.map_singleton, List.map_singleton, h]

/-- Emissions in sequence are alike if their parts are. -/
theorem Alike.bind {emit other : Emit α} {f g : α → Emit β} (h : emit.Alike other)
    (hf : ∀ a, (f a).Alike (g a)) : (emit >>= f).Alike (other >>= g) := by
  intro signals others hsignals
  obtain ⟨hresult, hmore⟩ := h signals others hsignals
  rcases hemit : emit.after signals with ⟨error | a, more⟩
  · rcases hother : other.after others with ⟨result, rest⟩
    rw [hemit, hother] at hresult hmore
    obtain rfl : result = .error error := hresult
    rw [after_bind_error f hemit, after_bind_error g hother]
    exact ⟨rfl, hmore⟩
  · rcases hother : other.after others with ⟨result, rest⟩
    rw [hemit, hother] at hresult hmore
    obtain rfl : result = .ok a := hresult
    rw [after_bind_ok f hemit, after_bind_ok g hother]
    exact hf a more rest hmore

/-- Emissions over a list are alike if they are for each item. -/
theorem Alike.forM {items : List α} {f g : α → Emit PUnit} (h : ∀ item, (f item).Alike (g item)) :
    (items.forM f).Alike (items.forM g) := by
  induction items with
  | nil => exact .pure _
  | cons item items ih => exact (h item).bind fun _ => ih

/-- What two emissions submit from the start. -/
theorem Alike.outcome {emit other : Emit α} (h : emit.Alike other) :
    other.outcome.1 = emit.outcome.1 ∧
      other.outcome.2.map Signal.withTagSet = emit.outcome.2.map Signal.withTagSet :=
  h [] [] rfl

end Emit

/-! ## Transformers with the same tags in another order -/

section
variable {ctx : RowContext} {tags : List String} (htags : tags.toFinset = ctx.tags.toFinset)
include htags

/-- A metric is submitted with the tags of the row or its own, so their order is all that
changes. -/
theorem Submitter.submit_retag (submitter : Submitter) (value : Float) :
    (submitter.submit ctx value).Alike (submitter.submit { ctx with tags } value) := by
  refine .submit ?_
  obtain ⟨kind, name, own⟩ := submitter
  cases own with
  | none => exact congrArg (Prod.mk _) htags
  | some own => rfl

theorem ServiceCheck.apply_retag (check : ServiceCheck) (value : Value) :
    (check.apply ctx value).Alike (check.apply { ctx with tags } value) := by
  refine (Emit.Alike.ofExcept _).bind fun message => .submit ?_
  obtain ⟨name, states, template, own⟩ := check
  cases own with
  | none => exact congrArg (Prod.mk _) htags
  | some own => rfl

theorem Submission.apply_retag (submission : Submission) (value : Value) :
    (submission.apply ctx value).Alike (submission.apply { ctx with tags } value) := by
  cases submission with
  | metric submitter => exact (Emit.Alike.ofExcept _).bind (submitter.submit_retag htags)
  | monotonicGauge total count =>
    refine (Emit.Alike.ofExcept _).bind fun number => ?_
    exact (total.submit_retag htags number).bind fun _ => count.submit_retag htags number
  | temporalPercent submitter scale =>
    exact (Emit.Alike.ofExcept _).bind fun _ => submitter.submit_retag htags _
  | serviceCheck check => exact check.apply_retag htags value
  | timeElapsed submitter format =>
    exact (Emit.Alike.ofExcept _).bind fun _ => submitter.submit_retag htags _
  | metadata name => exact .submit rfl
  | version name scheme =>
    exact (Emit.Alike.ofExcept _).bind fun _ => .forM fun _ => .submit rfl

theorem Transformer.apply_retag (transformer : Transformer) (value : Value) :
    (transformer.apply ctx value).Alike (transformer.apply { ctx with tags } value) := by
  cases transformer with
  | source => exact .pure ()
  | tag name boolean => exact .pure ()
  | tagList name => exact .pure ()
  | submit submission => exact submission.apply_retag htags value
  | dispatch branches =>
    simp only [apply]
    split
    · rename_i branch _
      exact (Emit.Alike.ofExcept _).bind fun _ => branch.submission.apply_retag htags _
    · exact .pure ()

theorem Extra.apply_retag (extra : Extra) :
    (extra.apply ctx).Alike (extra.apply { ctx with tags }) := by
  obtain ⟨name, action⟩ := extra
  cases action with
  | submit source transformer =>
    refine (Emit.Alike.ofExcept _).bind fun value => ?_
    exact (transformer.apply_retag htags value).bind fun _ => .pure _
  | expression expr submission =>
    refine (Emit.Alike.ofExcept _).bind fun value => ?_
    cases submission with
    | none => exact .pure _
    | some submission => exact (submission.apply_retag htags value).bind fun _ => .pure _
  | percent part total submitter =>
    refine (Emit.Alike.ofExcept _).bind fun percent => ?_
    cases percent with
    | none => exact .pure _
    | some percent => exact (submitter.submit_retag htags percent).bind fun _ => .pure _

end

/-! ## What a transformer sees -/

/-- Two contexts bind the same values and have the same tags, perhaps in another order. -/
structure RowContext.Alike (ctx other : RowContext) : Prop where
  sources : ∀ n, other.sources.find? n = ctx.sources.find? n
  tags : other.tags.toFinset = ctx.tags.toFinset
  hostname : other.hostname = ctx.hostname
  checkId : other.checkId = ctx.checkId
  now : other.now = ctx.now

section
variable {ctx other : RowContext} (h : ctx.Alike other)
include h

/-- Contexts that are alike differ in their sources and tags only. -/
theorem RowContext.Alike.eq :
    other = { ctx with sources := other.sources, tags := other.tags } := by
  obtain ⟨sources, tags, hostname, checkId, now⟩ := other
  obtain ⟨-, -, hhostname, hcheckId, hnow⟩ := h
  obtain rfl : hostname = ctx.hostname := hhostname
  obtain rfl : checkId = ctx.checkId := hcheckId
  obtain rfl : now = ctx.now := hnow
  rfl

/-- A transformer does alike in contexts that are alike: it looks up the same values, and the
order of tags does not matter. -/
theorem Transformer.apply_alike (transformer : Transformer) (value : Value) :
    (transformer.apply ctx value).Alike (transformer.apply other value) := by
  have hsources : transformer.apply { ctx with sources := other.sources, tags := other.tags } value
      = transformer.apply { ctx with tags := other.tags } value :=
    @Transformer.apply_congr { ctx with tags := other.tags } value _ transformer
      fun n _ => h.sources n
  rw [h.eq, hsources]
  exact transformer.apply_retag h.tags value

theorem Extra.apply_alike (extra : Extra) : (extra.apply ctx).Alike (extra.apply other) := by
  have hsources : extra.apply { ctx with sources := other.sources, tags := other.tags }
      = extra.apply { ctx with tags := other.tags } :=
    @Extra.apply_congr { ctx with tags := other.tags } _ extra fun n _ => h.sources n
  rw [h.eq, hsources]
  exact extra.apply_retag h.tags

end

/-! ## Activities -/

/-- Two activities have the same signals up to the order of tags, and the same log entries. -/
structure Activity.Alike (activity other : Activity) : Prop where
  signals : other.signals.map Signal.withTagSet = activity.signals.map Signal.withTagSet
  logs : other.logs = activity.logs

/-- Activities one after the other are alike if they are. -/
theorem Activity.Alike.append {a b c d : Activity} (hfirst : a.Alike b) (hsecond : c.Alike d) :
    (a ++ c).Alike (b ++ d) := by
  constructor
  · rw [signals_append, signals_append, List.map_append, List.map_append, hfirst.signals,
      hsecond.signals]
  · rw [logs_append, logs_append, hfirst.logs, hsecond.logs]

namespace Query

variable {ctx other : RowContext}

/-- A column causes alike activities in contexts that are alike. -/
theorem columnActivity_alike (h : ctx.Alike other) (row : Row) (column : Column) :
    (columnActivity ctx row column).Alike (columnActivity other row column) := by
  obtain ⟨hresult, hsignals⟩ :=
    (column.transformer.apply_alike h (cell row column)).outcome
  unfold columnActivity
  rcases hfirst : (column.transformer.apply ctx (cell row column)).outcome
    with ⟨error | result, signals⟩
  · rcases hsecond : (column.transformer.apply other (cell row column)).outcome
      with ⟨result, others⟩
    rw [hfirst, hsecond] at hresult hsignals
    obtain rfl : result = .error error := hresult
    exact ⟨hsignals, rfl⟩
  · rcases hsecond : (column.transformer.apply other (cell row column)).outcome
      with ⟨result, others⟩
    rw [hfirst, hsecond] at hresult hsignals
    obtain rfl : result = .ok () := hresult
    exact ⟨hsignals, rfl⟩

theorem extraActivity_alike (h : ctx.Alike other) (extra : Extra) :
    (extraActivity other extra).1 = (extraActivity ctx extra).1 ∧
      (extraActivity ctx extra).2.Alike (extraActivity other extra).2 := by
  obtain ⟨hresult, hsignals⟩ := (extra.apply_alike h).outcome
  unfold extraActivity
  rcases hfirst : (extra.apply ctx).outcome with ⟨error | value, signals⟩
  · rcases hsecond : (extra.apply other).outcome with ⟨result, others⟩
    rw [hfirst, hsecond] at hresult hsignals
    obtain rfl : result = .error error := hresult
    exact ⟨rfl, hsignals, rfl⟩
  · rcases hsecond : (extra.apply other).outcome with ⟨result, others⟩
    rw [hfirst, hsecond] at hresult hsignals
    obtain rfl : result = .ok value := hresult
    exact ⟨rfl, hsignals, rfl⟩

/-- The contexts are alike after an extra, which has the same value in both. -/
theorem afterExtra_alike (h : ctx.Alike other) (extra : Extra) :
    (ctx.afterExtra extra).Alike (other.afterExtra extra) := by
  have hvalue := (extraActivity_alike h extra).1
  cases hfirst : (extraActivity ctx extra).1 with
  | none =>
    rw [hfirst] at hvalue
    rw [RowContext.afterExtra_of_none hfirst, RowContext.afterExtra_of_none hvalue]
    exact h
  | some value =>
    rw [hfirst] at hvalue
    rw [RowContext.afterExtra_of_value hfirst, RowContext.afterExtra_of_value hvalue]
    refine ⟨fun n => ?_, h.tags, h.hostname, h.checkId, h.now⟩
    show (other.sources.bind extra.name value).find? n
      = (ctx.sources.bind extra.name value).find? n
    rw [Sources.find?_bind, Sources.find?_bind, h.sources]

theorem extrasActivity_alike (h : ctx.Alike other) (extras : List Extra) :
    (extrasActivity ctx extras).Alike (extrasActivity other extras) := by
  induction extras generalizing ctx other with
  | nil => exact ⟨rfl, rfl⟩
  | cons extra extras ih =>
    rw [extrasActivity_cons, extrasActivity_cons]
    exact (extraActivity_alike h extra).2.append (ih (afterExtra_alike h extra))

/-! ## Columns in any order -/

namespace Bound

variable {bounds others : List Bound}

/-- Of columns with distinct names, each is bound to its value. -/
theorem find?_eq_some_iff (hnodup : (bounds.map Bound.name).Nodup) {n : String} {value : Value} :
    Sources.find? (bounds.foldl (fun sources bound =>
      Sources.bind sources bound.name bound.value) []) n = some value ↔
        ∃ bound ∈ bounds, bound.name = n ∧ bound.value = value := by
  -- From the end, since the last binding is the one that is found.
  induction bounds using List.reverseRecOn with
  | nil => simp [Sources.find?]
  | append_singleton bounds last ih =>
    rw [List.map_append, List.map_singleton] at hnodup
    obtain ⟨hfront, -, hdistinct⟩ := List.nodup_append.mp hnodup
    have hlast : ∀ bound ∈ bounds, bound.name ≠ last.name := fun bound hbound =>
      hdistinct _ (List.mem_map_of_mem hbound) _ (List.mem_singleton_self _)
    rw [List.foldl_append, List.foldl_cons, List.foldl_nil, Sources.find?_bind]
    by_cases hn : n = last.name
    · subst hn
      rw [if_pos rfl]
      constructor
      · intro h
        exact ⟨last, List.mem_concat_self, rfl, Option.some.inj h⟩
      · rintro ⟨bound, hbound, hname, rfl⟩
        rcases List.mem_append.mp hbound with hbound | hbound
        · exact absurd hname (hlast bound hbound)
        · rw [List.mem_singleton.mp hbound]
    · rw [if_neg hn, ih hfront]
      constructor
      · rintro ⟨bound, hbound, hvalue⟩
        exact ⟨bound, List.mem_append_left _ hbound, hvalue⟩
      · rintro ⟨bound, hbound, rfl, rfl⟩
        rcases List.mem_append.mp hbound with hbound | hbound
        · exact ⟨bound, hbound, rfl, rfl⟩
        · exact absurd (congrArg Bound.name (List.mem_singleton.mp hbound)) hn

/-- The order of the columns does not matter to what their names are bound to. -/
theorem find?_perm (hperm : others.Perm bounds) (hnodup : (bounds.map Bound.name).Nodup)
    (n : String) :
    Sources.find? (others.foldl (fun sources bound =>
      Sources.bind sources bound.name bound.value) []) n
        = Sources.find? (bounds.foldl (fun sources bound =>
          Sources.bind sources bound.name bound.value) []) n := by
  have hothers : (others.map Bound.name).Nodup := (hperm.map Bound.name).nodup_iff.mpr hnodup
  refine Option.ext fun value => ?_
  rw [find?_eq_some_iff hnodup, find?_eq_some_iff hothers]
  simp only [hperm.mem_iff]

/-- The order of the columns matters only to the order of what they cause. -/
theorem perm_alike (h : ctx.Alike other) (hperm : others.Perm bounds) :
    ((Activity.join (others.map (Bound.activity other))).signals.map Signal.withTagSet).Perm
        ((Activity.join (bounds.map (Bound.activity ctx))).signals.map Signal.withTagSet) ∧
      (Activity.join (others.map (Bound.activity other))).logs.Perm
        (Activity.join (bounds.map (Bound.activity ctx))).logs := by
  have halike (bound : Bound) : (bound.activity ctx).Alike (bound.activity other) :=
    columnActivity_alike h _ _
  simp only [Activity.signals_join, Activity.logs_join, List.flatMap_map, List.map_flatMap]
  constructor
  · refine (hperm.flatMap_right _).trans (.of_eq ?_)
    exact List.flatMap_congr fun bound _ => (halike bound).signals
  · refine (hperm.flatMap_right _).trans (.of_eq ?_)
    exact List.flatMap_congr fun bound _ => (halike bound).logs

end Bound

end Query

end RowSignals
