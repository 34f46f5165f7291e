import RowSignals.Definition.Basic
import RowSignals.Transformer.Applied
import RowSignals.Transformer.Compiled

/-!
# Extras

An extra is computed from columns and from the extras before it, and can be read by the extras
after it.

* `ExtraAction`: what an extra computes: a source that is submitted, an expression, or a
  percentage.
* `Extra.ofField`: a compiled extra.
* `Extra.apply`: the value of an extra, submitted if it says so.

A source that is submitted has the value of the source, so that it can be read under either
name. An extra that fails has no value, and neither has a percentage of zero. The extras that
read it fail in their turn.
-/

namespace RowSignals

/-- What an extra computes. -/
inductive ExtraAction where
  /-- The value of a source, submitted by a transformer. -/
  | submit (source : String) (transformer : Transformer)
  /-- The value of an expression, submitted only if there is a submission. -/
  | expression (expr : CompiledExpr) (submission : Option Submission)
  /-- One source in percent of another. -/
  | percent (part total : String) (submitter : Submitter)
  deriving Repr

/-- A compiled extra. -/
structure Extra where
  name : String
  action : ExtraAction
  deriving Repr

namespace ExtraAction

/-- A parameter that must name a known source. -/
def knownSource (scope : Scope) (params : Params) (key : String) :
    Except ParamError String := do
  let source ← params.requiredText key
  scope.requireSource key source
  .ok source

/-- The submission of an expression, of the type that a parameter names. -/
def submissionOf (scope : Scope) (name : String) (params : Params) :
    Except ParamError (Option Submission) := do
  match ← params.optionalText "submit_type" with
  | none => .ok none
  | some kindName =>
    match SubmitKind.ofName? kindName with
    | some kind => (Submission.ofParams scope kind name params).map some
    | none => .error (.unknownSubmitType kindName)

/-- An expression. -/
def expressionOf (scope : Scope) (name : String) (params : Params) :
    Except ParamError ExtraAction := do
  let text ← params.nonEmptyText "expression"
  let resolution := if params.flag "verbose" then Resolution.explicit else .bare
  match CompiledExpr.compile text scope.sources resolution with
  | .error error => .error (.expression error)
  | .ok expr => return .expression expr (← submissionOf scope name params)

/-- A percentage. -/
def percentOf (scope : Scope) (name : String) (params : Params) :
    Except ParamError ExtraAction := do
  let part ← knownSource scope params "part"
  let total ← knownSource scope params "total"
  return .percent part total (← Submitter.ofParams scope .gauge name params)

/-- A source that is submitted. -/
def submitOf (scope : Scope) (kind name : String) (params : Params) :
    Except ParamError ExtraAction := do
  let source ← knownSource scope params "source"
  return .submit source (← Transformer.ofParams scope kind name params)

/-- What an extra of a kind computes. -/
def ofParams (scope : Scope) (kind name : String) (params : Params) :
    Except ParamError ExtraAction :=
  match ExtraKind.ofName? kind with
  | some .expression => expressionOf scope name params
  | some .percent => percentOf scope name params
  | _ => submitOf scope kind name params

end ExtraAction

namespace Extra

/-- The extra of a field. The sources of the scope are the columns and the extras before this
one. -/
def ofField (scope : Scope) (query : String) (field : Field) : Except DefinitionError Extra :=
  match ExtraAction.ofParams scope field.kind field.name field.params with
  | .ok action => .ok ⟨field.name, action⟩
  | .error error => .error (.params field.kind (.extra field.name query) error)

/-- The percentage of a part of a total; nothing for a total of zero. -/
def percentage? (ctx : RowContext) (part total : String) : Except RowError (Option Float) := do
  let whole ← (← ctx.source total).number
  -- the part is not even looked at, and may be missing
  if whole == 0 then .ok none
  else
    let number ← (← ctx.source part).number
    .ok (some (number / whole * 100.0))

/-- The value of an expression for a row. -/
def evaluate (expr : CompiledExpr) (sources : Sources) : Except RowError Value :=
  match expr.eval sources with
  | .ok value => .ok value
  | .error e => .error (.eval e)

/-- Submit what the extra stands for. Its value, if any, is a source for the extras after it. -/
def apply (extra : Extra) (ctx : RowContext) : Emit (Option Value) := do
  match extra.action with
  | .submit source transformer =>
    let value ← Emit.ofExcept (ctx.source source)
    transformer.apply ctx value
    return some value
  | .expression expr submission =>
    let value ← Emit.ofExcept (evaluate expr ctx.sources)
    match submission with
    | some submission => submission.apply ctx value
    | none => pure ()
    return some value
  | .percent part total submitter =>
    match ← Emit.ofExcept (percentage? ctx part total) with
    | none => return none
    | some percent =>
      submitter.submit ctx percent
      return some (.float percent)

end Extra

end RowSignals
