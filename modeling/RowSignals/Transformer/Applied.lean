import RowSignals.Transformer.Basic

/-!
# Applying transformers

Applying a transformer submits signals one after the other and may fail on the way; what was
submitted before stays submitted.

* `RowContext`: what a transformer sees of its row.
* `Emit`: submitting signals, with errors of the row.
* `Submission.apply`, `Transformer.apply`: the signals of a value.
* `Transformer.rowTags`: the tags that a value adds to its row.

Tags are collected from all columns before any column submits. So every signal of a row has the
tags of the whole row, unless its own parameters name others.
-/

namespace RowSignals

/-- What a transformer sees of its row. -/
structure RowContext where
  sources : Sources
  tags : List String
  hostname : Option String
  /-- The entity of metadata. -/
  checkId : String
  now : Calendar.Instant
  deriving Repr

/-- Submitting signals, which may fail on a value of the row. The signals before a failure
stay. -/
abbrev Emit := ExceptT RowError (StateM (List Signal))

namespace Emit

/-- Submit one signal. -/
def submit (signal : Signal) : Emit Unit :=
  modify fun signals => signals ++ [signal]

/-- A result that was found without submitting anything. -/
def ofExcept {α : Type} (result : Except RowError α) : Emit α :=
  match result with
  | .ok a => pure a
  | .error e => throw e

/-- The outcome and the signals that were submitted. -/
def outcome {α : Type} (emit : Emit α) : Except RowError α × List Signal :=
  emit.run.run []

end Emit

/-- The value of a source. -/
def RowContext.source (ctx : RowContext) (name : String) : Except RowError Value :=
  match ctx.sources.find? name with
  | some value => .ok value
  | none => .error (.missingSource name)

/-- A value as a number. -/
def Value.number (value : Value) : Except RowError Float :=
  match value.toFloat? with
  | .ok f => .ok f
  | .error e => .error (.notNumeric e)

/-- Submit a metric with its own tags, or else those of the row. -/
def Submitter.submit (submitter : Submitter) (ctx : RowContext) (value : Float) : Emit Unit :=
  Emit.submit
    (.metric submitter.kind submitter.name value (submitter.tags.getD ctx.tags) ctx.hostname)

namespace ServiceCheck

/-- The state of a value. -/
def status (check : ServiceCheck) (value : Value) : CheckStatus :=
  (check.states.lookup value.display).getD .unknown

/-- The message for a state: none when all is well. -/
def renderMessage (check : ServiceCheck) (status : CheckStatus) (sources : Sources) :
    Except RowError (Option String) :=
  match check.message with
  | none => .ok none
  | some template => if status = .ok then .ok none else (template.render sources).map some

/-- Submit the state of a value. -/
def apply (check : ServiceCheck) (ctx : RowContext) (value : Value) : Emit Unit := do
  let status := check.status value
  let message ← Emit.ofExcept (check.renderMessage status ctx.sources)
  Emit.submit (.check check.name status (check.tags.getD ctx.tags) ctx.hostname message)

end ServiceCheck

/-- Submit the parts of a version as metadata. -/
def VersionScheme.submit (scheme : VersionScheme) (entity raw : String) : Emit Unit := do
  let parts ← Emit.ofExcept (scheme.parts raw)
  parts.forM fun (part, value) => Emit.submit (.metadata entity ("version." ++ part) value)

/-- Submit a value. -/
def Submission.apply (submission : Submission) (ctx : RowContext) (value : Value) :
    Emit Unit := do
  match submission with
  | .metric submitter => submitter.submit ctx (← Emit.ofExcept value.number)
  | .monotonicGauge total count =>
    -- the only failure comes before the first of the two signals
    let number ← Emit.ofExcept value.number
    total.submit ctx number
    count.submit ctx number
  | .temporalPercent submitter scale =>
    submitter.submit ctx ((← Emit.ofExcept value.number) / scale * 100.0)
  | .serviceCheck check => check.apply ctx value
  | .timeElapsed submitter format =>
    submitter.submit ctx (← Emit.ofExcept (format.elapsed value ctx.now))
  | .metadata name => Emit.submit (.metadata ctx.checkId name value.display)
  | .version _ scheme => scheme.submit ctx.checkId value.display

namespace Transformer

/-- Submit what a value stands for. Sources and tags submit nothing. -/
def apply (transformer : Transformer) (ctx : RowContext) (value : Value) : Emit Unit := do
  match transformer with
  | .source => pure ()
  | .tag _ _ => pure ()
  | .tagList _ => pure ()
  | .submit submission => submission.apply ctx value
  | .dispatch branches =>
    match branches.lookup value.display with
    | some branch => branch.submission.apply ctx (← Emit.ofExcept (ctx.source branch.source))
    | none => pure ()

/-- Whether a value says yes: a text by one of the usual words, any other value by being
true. -/
def isYes : Value → Bool
  | .str text => isAffirmativeText text
  | value => value.isTruthy

/-- The items of a list, or of a text with commas; blank ones are dropped. -/
def tagItems (value : Value) : List String :=
  let items : List (List Char) := match value with
    | .list items => items.map fun (item : Value) => item.display.toList
    | .str text => Text.splitOn (· == ',') text.toList
    | .null => []
    | value => [value.display.toList]
  (items.map fun item => String.ofList (Text.trim item)).filter (· != "")

/-- The tags that a value adds to its row. -/
def rowTags (transformer : Transformer) (value : Value) : List String :=
  match transformer with
  | .tag name true => [name ++ ":" ++ if isYes value then "true" else "false"]
  | .tag name false => [name ++ ":" ++ value.display]
  | .tagList name => (tagItems value).map fun item => name ++ ":" ++ item
  | _ => []

end Transformer

end RowSignals
