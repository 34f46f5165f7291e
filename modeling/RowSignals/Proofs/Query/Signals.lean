import RowSignals.Proofs.Query.Emission
import RowSignals.Proofs.Query.Rows

/-!
# The signals of rows

Columns and extras submit metrics, service checks and metadata. The gauge of the time that a
query takes is submitted beside them, and never by them.

* `Signal.OfRow`: the signals of columns and extras.
* `Emit.Submits`, `Activity.Submits`: emissions and activities all of whose signals have a
  property, with one rule for each way to put them together.
* `Query.rowActivity_submits`, `Query.run_submits_of_rows`: from columns and extras to rows, and
  from rows to queries.
* `Query.run_submits`: a query submits only signals of columns and extras, whatever the runner
  answers.
-/

namespace RowSignals

/-- A signal of a column or an extra: any but the gauge of the time that a query took. -/
def Signal.OfRow : Signal → Prop
  | .operationTime .. => False
  | _ => True

/-! ## Emissions -/

namespace Emit

variable {α β : Type} {P : Signal → Prop}

/-- All signals of the emission have a property. -/
def Submits (P : Signal → Prop) (emit : Emit α) : Prop :=
  ∀ signals, (∀ signal ∈ signals, P signal) → ∀ signal ∈ (emit.after signals).2, P signal

theorem Submits.pure (a : α) : Submits P (pure a : Emit α) :=
  fun _ h => h

theorem Submits.ofExcept (result : Except RowError α) : Submits P (ofExcept result) := by
  intro signals h
  rw [after_ofExcept]
  exact h

/-- One signal is submitted with the property if it has it. -/
theorem Submits.submit {signal : Signal} (h : P signal) : Submits P (submit signal) := by
  intro signals hsignals other hother
  rw [after_submit] at hother
  rcases List.mem_append.mp hother with hother | hother
  · exact hsignals other hother
  · rw [List.mem_singleton.mp hother]
    exact h

/-- Emissions in sequence keep the property if their parts do. -/
theorem Submits.bind {emit : Emit α} {f : α → Emit β} (h : emit.Submits P)
    (hf : ∀ a, (f a).Submits P) : (emit >>= f).Submits P := by
  intro signals hsignals
  -- the second emission starts from what the first one leaves
  have hfirst := h signals hsignals
  rcases hemit : emit.after signals with ⟨error | a, more⟩
  · rw [after_bind_error f hemit]
    rwa [hemit] at hfirst
  · rw [after_bind_ok f hemit]
    rw [hemit] at hfirst
    exact hf a more hfirst

/-- Emissions over a list keep it if they do for each item. -/
theorem Submits.forM {items : List α} {f : α → Emit PUnit} (h : ∀ item, (f item).Submits P) :
    (items.forM f).Submits P := by
  induction items with
  | nil => exact .pure _
  | cons item items ih => exact (h item).bind fun _ => ih

/-- What an emission submits from the start. -/
theorem Submits.outcome {emit : Emit α} (h : emit.Submits P) :
    ∀ signal ∈ emit.outcome.2, P signal :=
  h [] nofun

end Emit

open Emit (Submits)

theorem Submitter.submit_submits (submitter : Submitter) (ctx : RowContext) (value : Float) :
    (submitter.submit ctx value).Submits Signal.OfRow :=
  .submit trivial

/-- Whatever a submission submits is a signal of a row. -/
theorem Submission.apply_submits (submission : Submission) (ctx : RowContext) (value : Value) :
    (submission.apply ctx value).Submits Signal.OfRow := by
  cases submission with
  | metric submitter => exact (Submits.ofExcept _).bind fun _ => submitter.submit_submits _ _
  | monotonicGauge total count =>
    refine (Submits.ofExcept _).bind fun number => ?_
    exact (total.submit_submits ctx number).bind fun _ => count.submit_submits ctx number
  | temporalPercent submitter scale =>
    exact (Submits.ofExcept _).bind fun _ => submitter.submit_submits _ _
  | serviceCheck check => exact (Submits.ofExcept _).bind fun _ => .submit trivial
  | timeElapsed submitter format =>
    exact (Submits.ofExcept _).bind fun _ => submitter.submit_submits _ _
  | metadata name => exact .submit trivial
  | version name scheme =>
    exact (Submits.ofExcept _).bind fun _ => Submits.forM fun _ => .submit trivial

/-- A transformer submits signals of a row, by its own submission or that of an item. -/
theorem Transformer.apply_submits (transformer : Transformer) (ctx : RowContext)
    (value : Value) : (transformer.apply ctx value).Submits Signal.OfRow := by
  cases transformer with
  | source => exact .pure ()
  | tag name boolean => exact .pure ()
  | tagList name => exact .pure ()
  | submit submission => exact submission.apply_submits ctx value
  | dispatch branches =>
    simp only [Transformer.apply]
    split
    · exact (Submits.ofExcept _).bind fun _ => Submission.apply_submits _ _ _
    · exact .pure ()

theorem Extra.apply_submits (extra : Extra) (ctx : RowContext) :
    (extra.apply ctx).Submits Signal.OfRow := by
  obtain ⟨name, action⟩ := extra
  cases action with
  | submit source transformer =>
    refine (Submits.ofExcept _).bind fun value => ?_
    exact (transformer.apply_submits ctx value).bind fun _ => .pure _
  | expression expr submission =>
    refine (Submits.ofExcept _).bind fun value => ?_
    cases submission with
    | none => exact .pure _
    | some submission => exact (submission.apply_submits ctx value).bind fun _ => .pure _
  | percent part total submitter =>
    refine (Submits.ofExcept _).bind fun percent => ?_
    cases percent with
    | none => exact .pure _
    | some percent => exact (submitter.submit_submits ctx percent).bind fun _ => .pure _

/-! ## Activities -/

namespace Activity

variable {P : Signal → Prop}

/-- All signals of the activity have a property. -/
def Submits (P : Signal → Prop) (activity : Activity) : Prop :=
  ∀ signal ∈ activity.signals, P signal

theorem Submits.none : Submits P .none :=
  nofun

theorem Submits.log (entry : LogEntry) : Submits P (.log entry) :=
  nofun

theorem Submits.call (query : Json) : Submits P (.call query) :=
  nofun

/-- Activities one after the other keep a property that both have. -/
theorem Submits.append {a b : Activity} (ha : a.Submits P) (hb : b.Submits P) :
    (a ++ b).Submits P := by
  intro signal hsignal
  rcases List.mem_append.mp hsignal with h | h
  · exact ha signal h
  · exact hb signal h

theorem Submits.join {activities : List Activity}
    (h : ∀ activity ∈ activities, activity.Submits P) : (join activities).Submits P := by
  induction activities with
  | nil => exact .none
  | cons activity activities ih =>
    exact .append (h activity List.mem_cons_self)
      (ih fun other hother => h other (List.mem_cons_of_mem _ hother))

end Activity

namespace Query

open Calendar (Instant)

/-- What a column causes are signals of a row. -/
theorem columnActivity_submits (ctx : RowContext) (row : Row) (column : Column) :
    (columnActivity ctx row column).Submits Signal.OfRow := by
  have h := (column.transformer.apply_submits ctx (cell row column)).outcome
  unfold columnActivity
  split
  · rename_i signals houtcome
    rwa [houtcome] at h
  · rename_i error signals houtcome
    rwa [houtcome] at h

theorem extraActivity_submits (ctx : RowContext) (extra : Extra) :
    (extraActivity ctx extra).2.Submits Signal.OfRow := by
  have h := (extra.apply_submits ctx).outcome
  unfold extraActivity
  split
  · rename_i value signals houtcome
    rwa [houtcome] at h
  · rename_i error signals houtcome
    rwa [houtcome] at h

section
variable {P : Signal → Prop} {query : Query} {options : Options} {now : Instant}

/-- The extras submit what each of them does after those before it. -/
theorem extrasActivity_submits {ctx : RowContext} {extras : List Extra}
    (h : ∀ before extra after, extras = before ++ extra :: after →
      (extraActivity (ctx.afterExtras before) extra).2.Submits P) :
    (extrasActivity ctx extras).Submits P := by
  induction extras generalizing ctx with
  | nil => exact .none
  | cons extra extras ih =>
    refine .append (h [] extra extras rfl) (ih fun before later after hextras => ?_)
    exact h (extra :: before) later after (congrArg (extra :: ·) hextras)

/-- Rendering the host name of a row causes no signal. -/
theorem hostnameOfRow_submits (sources : Sources) :
    (query.hostnameOfRow options sources).2.Submits P := by
  unfold hostnameOfRow
  split
  · exact .none
  · split
    · exact .none
    · exact .log _

/-- A row submits what its columns and its extras do. -/
theorem rowActivity_submits {base : List String} {row : Row}
    (hcolumns : ∀ column ∈ query.columns,
      (columnActivity (query.rowContext options base now row) row column).Submits P)
    (hextras : ∀ before extra after, query.extras = before ++ extra :: after →
      (extraActivity ((query.rowContext options base now row).afterExtras before) extra).2.Submits
        P) :
    (query.rowActivity options base now row).Submits P := by
  refine .append (.append (hostnameOfRow_submits _) ?_) (extrasActivity_submits hextras)
  refine .join fun activity hactivity => ?_
  obtain ⟨column, hcolumn, rfl⟩ := List.mem_map.mp hactivity
  exact hcolumns column hcolumn

/-- What is handed over for a row causes what the row does, or a log entry. -/
theorem itemActivity_submits {base : List String} {row : Row}
    (h : (query.rowActivity options base now row).Submits P) :
    (query.itemActivity options base now row).Submits P := by
  unfold itemActivity
  split
  · exact .log _
  · split
    · exact .log _
    · exact h

/-- An answer keeps every property that its rows keep. -/
theorem answerActivity_submits {extraTags : List String} (answer : Answer)
    (h : ∀ row, (query.rowActivity options (query.baseTags options extraTags) now row).Submits P) :
    (query.answerActivity options extraTags now answer).Submits P := by
  unfold answerActivity
  split
  · exact .log _
  · exact .log _
  · rename_i rows failure _
    refine .append (.join fun activity hactivity => ?_) ?_
    · obtain ⟨row, -, rfl⟩ := List.mem_map.mp hactivity
      exact itemActivity_submits (h row)
    · cases failure with
      | none => exact .none
      | some problem => exact .log _

/-- A query submits what rows do, whatever the runner answers. -/
theorem run_submits_of_rows {extraTags : List String} (runner : Runner)
    (h : ∀ row, (query.rowActivity options (query.baseTags options extraTags) now row).Submits P) :
    (query.run runner options extraTags now).Submits P :=
  .append (.call _) (answerActivity_submits _ h)

end

/-- A query submits only signals of columns and extras, whatever the runner answers. -/
theorem run_submits (query : Query) (runner : Runner) (options : Options)
    (extraTags : List String) (now : Instant) :
    (query.run runner options extraTags now).Submits Signal.OfRow := by
  refine run_submits_of_rows runner fun row => rowActivity_submits ?_ ?_
  · exact fun column _ => columnActivity_submits _ row column
  · exact fun before extra after _ => extraActivity_submits _ extra

end Query

end RowSignals
