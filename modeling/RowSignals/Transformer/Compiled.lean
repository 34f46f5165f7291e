import RowSignals.Transformer.Basic

/-!
# From parameters to transformers

The parameters of a transformer are checked once, before any row is seen. Which of two errors is
reported follows from the order in which the parameters are read.

* `Scope`: the names that a query gives its parts.
* `Scope.metricName`: the full name of a metric.
* `Submitter.ofParams`, `ServiceCheck.ofParams`: the parts of submissions.
* `Submission.ofParams`, `Transformer.ofParams`: the transformer of a kind with its parameters.
* `Branch.ofItem`: a branch of a dispatching column, whose item has parameters of its own.

Statuses and items are looked at in the order of their keys, which is the order of the members
of an object.
-/

namespace RowSignals

/-- The names that a query gives its parts. -/
structure Scope where
  /-- Comes first in metric names, unless a metric is raw. -/
  nameSpace : Option String
  /-- Comes next in metric names. -/
  metricPrefix : Option String
  /-- The sources that can be read. -/
  sources : List String
  deriving Repr

namespace Scope

/-- A text without the points at its end. -/
def withoutTrailingPoints (text : String) : String :=
  String.ofList (text.toList.reverse.dropWhile (· == '.')).reverse

/-- The full name of a metric: name space, prefix and name, joined by points. Empty ones are
left out, except the name itself. -/
def metricName (scope : Scope) (name : String) (raw : Bool) : String :=
  let space := if raw then [] else scope.nameSpace.toList
  let front := space ++ scope.metricPrefix.toList.map withoutTrailingPoints
  ".".intercalate (front.filter (· != "") ++ [name])

/-- A source that a parameter names must be known. -/
def requireSource (scope : Scope) (param name : String) : Except ParamError Unit :=
  if scope.sources.contains name then .ok () else .error (.unavailableSource param name)

end Scope

/-- The submitter of a kind. -/
def Submitter.ofParams (scope : Scope) (kind : MetricKind) (name : String) (params : Params) :
    Except ParamError Submitter := do
  let tags ← params.tags
  .ok ⟨kind, scope.metricName name (params.flag "raw"), tags⟩

/-- How many parts are a second. -/
def scaleOfParams (params : Params) : Except ParamError Float := do
  match ← params.required "scale" with
  | .string "second" => .ok 1
  | .string "millisecond" => .ok 1000
  | .string "microsecond" => .ok 1000000
  | .string "nanosecond" => .ok 1000000000
  | .string _ => .error .unknownScale
  | value =>
    match value.int64? with
    | some parts => if 0 < parts then .ok (Number.ofInt parts) else .error .invalidScale
    | none => .error .invalidScale

namespace ServiceCheck

/-- The state for one value. -/
def stateOf (value : String) (status : Json) : Except ParamError (String × CheckStatus) :=
  match status with
  | .string name =>
    match CheckStatus.ofName? name with
    | some status => .ok (value, status)
    | none => .error (.invalidStatus name value)
  | other => .error (.statusNotText other.compact value)

/-- A message whose places are all known sources. -/
def messageOf (scope : Scope) (text : String) : Except ParamError Template :=
  let template := Template.ofText text
  match template.references.find? (!scope.sources.contains ·) with
  | some name => .error (.unknownTemplateSource name)
  | none => .ok template

/-- The service check of the parameters. -/
def ofParams (scope : Scope) (name : String) (params : Params) :
    Except ParamError ServiceCheck := do
  let states ← params.requiredMapping "status_map"
  if states.isEmpty then .error (.empty "status_map")
  let states ← states.mapM fun (value, status) => stateOf value status
  let message ← (← params.optionalText "message").mapM (messageOf scope)
  let tags ← params.tags
  .ok ⟨scope.metricName name (params.flag "raw"), states, message, tags⟩

end ServiceCheck

namespace Submission

/-- A gauge and a count beside it, which share tags. -/
def monotonicGaugeOf (base : Submitter) : Submission :=
  .monotonicGauge { base with name := base.name ++ ".total" }
    ⟨.monotonicCount, base.name ++ ".count", base.tags⟩

/-- The submission of a kind. Metadata of the name `version` is a version. -/
def ofParams (scope : Scope) (kind : SubmitKind) (name : String) (params : Params) :
    Except ParamError Submission := do
  match kind with
  | .metric kind => return .metric (← Submitter.ofParams scope kind name params)
  | .monotonicGauge => return monotonicGaugeOf (← Submitter.ofParams scope .gauge name params)
  | .temporalPercent =>
    let scale ← scaleOfParams params
    return .temporalPercent (← Submitter.ofParams scope .rate name params) scale
  | .serviceCheck => return .serviceCheck (← ServiceCheck.ofParams scope name params)
  | .timeElapsed =>
    let format ← params.optionalText "format"
    return .timeElapsed (← Submitter.ofParams scope .gauge name params) (.ofParam format)
  | .metadata =>
    if name = "version" then return .version name (← VersionScheme.ofParams params)
    else return .metadata name

end Submission

namespace Branch

/-- A parameter of a match item that must be there and a text. -/
def requiredText (key param : String) (item : Params) : Except ParamError String :=
  match item.find? param with
  | none => .error (.missingInItem param key)
  | some (.string text) => .ok text
  | some _ => .error (.invalidInItem param key)

/-- The source of a match item, or else that of the whole column. -/
def sourceOf (key : String) (item : Params) (columnSource : Option String) :
    Except ParamError String :=
  -- the item's own source is preferred, even where the column has none
  match item.find? "source", columnSource with
  | some (.string source), _ => .ok source
  | some _, _ => .error (.invalidInItem "source" key)
  | none, some source => .ok source
  | none, none => .error (.missingInItem "source" key)

/-- The branch of a match item. -/
def ofItem (scope : Scope) (columnSource : Option String) (key : String) (raw : Json) :
    Except ParamError (String × Branch) := do
  let .object item := raw | .error (.itemNotAMapping key)
  let name ← requiredText key "name" item
  let kindName ← requiredText key "type" item
  let some kind := SubmitKind.ofName? kindName | .error (.unknownItemType kindName key)
  let source ← sourceOf key item columnSource
  scope.requireSource "source" source
  match Submission.ofParams scope kind name item with
  | .ok submission => .ok (key, ⟨source, submission⟩)
  | .error error => .error (.inItem kindName key error)

end Branch

namespace Transformer

/-- A dispatching column. -/
def dispatchOf (scope : Scope) (params : Params) : Except ParamError Transformer := do
  let items ← params.requiredMapping "items"
  let source ← params.optionalText "source"
  if let some source := source then scope.requireSource "source" source
  let branches ← items.mapM fun (key, item) => Branch.ofItem scope source key item
  .ok (.dispatch branches)

/-- The transformer of a kind. -/
def ofKind (scope : Scope) (kind : ColumnKind) (name : String) (params : Params) :
    Except ParamError Transformer :=
  match kind with
  | .source => .ok .source
  | .tag => .ok (.tag name (params.flag "boolean"))
  | .tagList => .ok (.tagList name)
  | .dispatch => dispatchOf scope params
  | .submit kind => (Submission.ofParams scope kind name params).map .submit

/-- The transformer of a kind that is given by name. -/
def ofParams (scope : Scope) (kind name : String) (params : Params) :
    Except ParamError Transformer :=
  match ColumnKind.ofName? kind with
  | some kind => ofKind scope kind name params
  | none => .error (.unknownSubmitType kind)

end Transformer

end RowSignals
