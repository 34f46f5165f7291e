import RowSignals.Extra

/-!
# Emission

How the steps of a transformer submit and fail. A step that cannot fail may submit, and a step
that may fail submits nothing; transformers put all steps of the second kind first.

* `Emit.Certain`, `Emit.AllOrNothing`: emissions that cannot fail, and emissions that submit
  nothing when they fail.
* `Emit.Fails`: the errors of an emission; `Emit.fails_bind`, `Emit.fails_ofExcept_bind` for two
  steps.
* `Transformer.apply_allOrNothing`, `Extra.apply_allOrNothing`.
-/

namespace RowSignals

namespace Emit

variable {α β : Type}

/-- The outcome of an emission after some signals, and all signals then. -/
def after (emit : Emit α) (signals : List Signal) : Except RowError α × List Signal :=
  emit.run.run signals

theorem after_pure (a : α) (signals : List Signal) :
    (pure a : Emit α).after signals = (.ok a, signals) :=
  rfl

/-- A signal that is submitted comes after all signals before it. -/
theorem after_submit (signal : Signal) (signals : List Signal) :
    (submit signal).after signals = (.ok (), signals ++ [signal]) :=
  rfl

/-- A result submits nothing, whether it is a value or an error. -/
theorem after_ofExcept (result : Except RowError α) (signals : List Signal) :
    (ofExcept result).after signals = (result, signals) := by
  cases result with
  | error error => rfl
  | ok a => rfl

/-- After a first emission that succeeds the second one goes on with its signals. -/
theorem after_bind_ok {emit : Emit α} {signals more : List Signal} {a : α} (f : α → Emit β)
    (h : emit.after signals = (.ok a, more)) :
    (emit >>= f).after signals = (f a).after more := by
  show (ExceptT.bindCont f (emit.after signals).1).run (emit.after signals).2 = _
  rw [h]
  rfl

/-- If the first of two emissions fails, the second one is not reached. -/
theorem after_bind_error {emit : Emit α} {signals more : List Signal} {error : RowError}
    (f : α → Emit β) (h : emit.after signals = (.error error, more)) :
    (emit >>= f).after signals = (.error error, more) := by
  show (ExceptT.bindCont f (emit.after signals).1).run (emit.after signals).2 = _
  rw [h]
  rfl

/-- Two steps have a result where both have one. -/
theorem after_bind_eq_ok {emit : Emit α} {f : α → Emit β} {signals more : List Signal} {b : β}
    (h : (emit >>= f).after signals = (.ok b, more)) :
    ∃ a between, emit.after signals = (.ok a, between) ∧ (f a).after between = (.ok b, more) := by
  rcases hemit : emit.after signals with ⟨error | a, between⟩
  · rw [after_bind_error f hemit] at h
    cases h
  · rw [after_bind_ok f hemit] at h
    exact ⟨a, between, rfl, h⟩

/-! ## Failures -/

/-- The emission may fail with an error. -/
def Fails (emit : Emit α) (error : RowError) : Prop :=
  ∃ signals, (emit.after signals).1 = .error error

theorem not_fails_pure (a : α) (error : RowError) : ¬ (pure a : Emit α).Fails error := by
  rintro ⟨signals, h⟩
  cases h

theorem not_fails_submit (signal : Signal) (error : RowError) : ¬ (submit signal).Fails error := by
  rintro ⟨signals, h⟩
  cases h

/-- Two steps fail where the first or the second fails. -/
theorem fails_bind {emit : Emit α} {f : α → Emit β} {error : RowError}
    (h : (emit >>= f).Fails error) : emit.Fails error ∨ ∃ a, (f a).Fails error := by
  obtain ⟨signals, h⟩ := h
  rcases hemit : emit.after signals with ⟨result | a, more⟩
  · rw [after_bind_error f hemit] at h
    cases h
    exact .inl ⟨signals, by rw [hemit]⟩
  · rw [after_bind_ok f hemit] at h
    exact .inr ⟨a, more, h⟩

/-- A result that is used fails where it is an error, or where its use fails. -/
theorem fails_ofExcept_bind {result : Except RowError α} {f : α → Emit β} {error : RowError}
    (h : (ofExcept result >>= f).Fails error) :
    result = .error error ∨ ∃ a, result = .ok a ∧ (f a).Fails error := by
  obtain ⟨signals, h⟩ := h
  cases result with
  | error first =>
    rw [after_bind_error f (after_ofExcept _ signals)] at h
    cases h
    exact .inl rfl
  | ok a =>
    rw [after_bind_ok f (after_ofExcept _ signals)] at h
    exact .inr ⟨a, rfl, signals, h⟩

/-! ## Emissions that cannot fail -/

/-- The emission cannot fail. -/
def Certain (emit : Emit α) : Prop :=
  ∀ signals, ∃ a more, emit.after signals = (.ok a, more)

theorem Certain.pure (a : α) : Certain (pure a : Emit α) :=
  fun signals => ⟨a, signals, after_pure a signals⟩

theorem Certain.submit (signal : Signal) : Certain (submit signal) :=
  fun signals => ⟨(), signals ++ [signal], after_submit signal signals⟩

/-- Emissions that cannot fail cannot fail in sequence. -/
theorem Certain.bind {emit : Emit α} {f : α → Emit β} (h : emit.Certain)
    (hf : ∀ a, (f a).Certain) : (emit >>= f).Certain := by
  intro signals
  obtain ⟨a, more, hemit⟩ := h signals
  rw [after_bind_ok f hemit]
  exact hf a more

theorem Certain.forM {items : List α} {f : α → Emit PUnit} (h : ∀ item, (f item).Certain) :
    (items.forM f).Certain := by
  induction items with
  | nil => exact .pure _
  | cons item items ih => exact (h item).bind fun _ => ih

theorem Certain.not_fails {emit : Emit α} (h : emit.Certain) (error : RowError) :
    ¬ emit.Fails error := by
  rintro ⟨signals, herror⟩
  obtain ⟨a, more, hok⟩ := h signals
  rw [hok] at herror
  cases herror

/-! ## Emissions that submit everything or nothing -/

/-- The emission submits nothing when it fails. -/
def AllOrNothing (emit : Emit α) : Prop :=
  ∀ signals more error, emit.after signals = (.error error, more) → more = signals

/-- An emission that cannot fail has nothing to take back. -/
theorem Certain.allOrNothing {emit : Emit α} (h : emit.Certain) : emit.AllOrNothing := by
  intro signals more error herror
  exact absurd ⟨signals, by rw [herror]⟩ (h.not_fails error)

/-- A result that is found without submitting anything may come before all other steps. -/
theorem AllOrNothing.ofExcept_bind {f : α → Emit β} (result : Except RowError α)
    (h : ∀ a, (f a).AllOrNothing) : (ofExcept result >>= f).AllOrNothing := by
  intro signals more error herror
  cases result with
  | error first =>
    rw [after_bind_error f (after_ofExcept _ signals)] at herror
    cases herror
    rfl
  | ok a =>
    rw [after_bind_ok f (after_ofExcept _ signals)] at herror
    exact h a _ _ _ herror

/-- A step that cannot fail may come after all other steps. -/
theorem AllOrNothing.bind_certain {emit : Emit α} {f : α → Emit β} (h : emit.AllOrNothing)
    (hf : ∀ a, (f a).Certain) : (emit >>= f).AllOrNothing := by
  intro signals more error herror
  rcases hemit : emit.after signals with ⟨first | a, others⟩
  · rw [after_bind_error f hemit] at herror
    cases herror
    exact h _ _ _ hemit
  · rw [after_bind_ok f hemit] at herror
    exact absurd ⟨others, by rw [herror]⟩ ((hf a).not_fails error)

/-- What an emission that submits everything or nothing has submitted when it fails. -/
theorem AllOrNothing.outcome {emit : Emit α} (h : emit.AllOrNothing) {error : RowError}
    {signals : List Signal} (herror : emit.outcome = (.error error, signals)) : signals = [] :=
  h [] signals error herror

end Emit

open Emit (Certain AllOrNothing)

/-! ## Transformers -/

theorem Submitter.submit_certain (submitter : Submitter) (ctx : RowContext) (value : Float) :
    (submitter.submit ctx value).Certain :=
  .submit _

/-- A service check is submitted after its message was rendered, or not at all. -/
theorem ServiceCheck.apply_allOrNothing (check : ServiceCheck) (ctx : RowContext) (value : Value) :
    (check.apply ctx value).AllOrNothing :=
  .ofExcept_bind _ fun _ => (Certain.submit _).allOrNothing

/-- The parts of a version are submitted after all were found, or none of them. -/
theorem VersionScheme.submit_allOrNothing (scheme : VersionScheme) (entity raw : String) :
    (scheme.submit entity raw).AllOrNothing :=
  .ofExcept_bind _ fun _ => (Certain.forM fun _ => .submit _).allOrNothing

/-- Every kind of submission reads all it needs before it submits. -/
theorem Submission.apply_allOrNothing (submission : Submission) (ctx : RowContext)
    (value : Value) : (submission.apply ctx value).AllOrNothing := by
  cases submission with
  | metric submitter =>
    exact .ofExcept_bind _ fun _ => (submitter.submit_certain _ _).allOrNothing
  | monotonicGauge total count =>
    refine .ofExcept_bind _ fun number => ?_
    -- both signals are submitted after the number is known
    exact ((total.submit_certain ctx number).bind
      fun _ => count.submit_certain ctx number).allOrNothing
  | temporalPercent submitter scale =>
    exact .ofExcept_bind _ fun _ => (submitter.submit_certain _ _).allOrNothing
  | serviceCheck check => exact check.apply_allOrNothing ctx value
  | timeElapsed submitter format =>
    exact .ofExcept_bind _ fun _ => (submitter.submit_certain _ _).allOrNothing
  | metadata name => exact (Certain.submit _).allOrNothing
  | version name scheme => exact scheme.submit_allOrNothing _ _

theorem Transformer.apply_allOrNothing (transformer : Transformer) (ctx : RowContext)
    (value : Value) : (transformer.apply ctx value).AllOrNothing := by
  cases transformer with
  | source => exact (Certain.pure ()).allOrNothing
  | tag name boolean => exact (Certain.pure ()).allOrNothing
  | tagList name => exact (Certain.pure ()).allOrNothing
  | submit submission => exact submission.apply_allOrNothing ctx value
  | dispatch branches =>
    simp only [Transformer.apply]
    split
    · exact .ofExcept_bind _ fun _ => Submission.apply_allOrNothing _ _ _
    · exact (Certain.pure ()).allOrNothing

/-- An extra that fails has submitted nothing: what can fail comes before its first signal. -/
theorem Extra.apply_allOrNothing (extra : Extra) (ctx : RowContext) :
    (extra.apply ctx).AllOrNothing := by
  obtain ⟨name, action⟩ := extra
  cases action with
  | submit source transformer =>
    refine .ofExcept_bind _ fun value => ?_
    exact (transformer.apply_allOrNothing ctx value).bind_certain fun _ => .pure _
  | expression expr submission =>
    refine .ofExcept_bind _ fun value => ?_
    cases submission with
    | none => exact (Certain.pure _).allOrNothing
    | some submission =>
      exact (submission.apply_allOrNothing ctx value).bind_certain fun _ => .pure _
  | percent part total submitter =>
    refine .ofExcept_bind _ fun percent => ?_
    cases percent with
    | none => exact (Certain.pure _).allOrNothing
    | some percent =>
      exact ((submitter.submit_certain ctx percent).bind fun _ => .pure _).allOrNothing

end RowSignals
