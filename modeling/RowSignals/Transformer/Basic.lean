import RowSignals.Definition.Kinds
import RowSignals.Template
import RowSignals.TimeFormat
import RowSignals.Version.Scheme

/-!
# Transformers

A transformer turns the value of a column or extra into signals.

* `Submitter`: how a metric is submitted.
* `ServiceCheck`: how the state of a service is.
* `Submission`: the transformers that submit a value.
* `Branch`: what a dispatching column submits for one of its values.
* `Transformer`: all transformers of columns.

Transformers are plain data that compiling makes from parameters (`Transformer.Compiled`) and
that running applies to the values of rows (`Transformer.Applied`). Names of metrics are
complete in them, with everything that comes in front.
-/

namespace RowSignals

/-- A metric to be submitted. -/
structure Submitter where
  kind : MetricKind
  name : String
  /-- Tags that replace those of the row. -/
  tags : Option (List String)
  deriving Repr

/-- A service check to be submitted. -/
structure ServiceCheck where
  name : String
  /-- The states of the values, by their texts; any other value is an unknown state. -/
  states : List (String × CheckStatus)
  /-- The message of a state that is not well. -/
  message : Option Template
  /-- Tags that replace those of the row. -/
  tags : Option (List String)
  deriving Repr

/-- A transformer that submits a value. -/
inductive Submission where
  | metric (submitter : Submitter)
  | monotonicGauge (total count : Submitter)
  /-- The part of a second that was spent, in percent; `scale` parts are a second. -/
  | temporalPercent (submitter : Submitter) (scale : Float)
  | serviceCheck (check : ServiceCheck)
  | timeElapsed (submitter : Submitter) (format : TimeFormat)
  | metadata (name : String)
  /-- A version, of which every part is submitted. -/
  | version (name : String) (scheme : VersionScheme)
  deriving Repr

/-- A branch of a dispatching column. -/
structure Branch where
  /-- The source whose value is submitted. -/
  source : String
  submission : Submission
  deriving Repr

/-- The transformer of a column. -/
inductive Transformer where
  /-- The value is only a source. -/
  | source
  /-- The value becomes a tag of the row; `boolean` tells that it is shown as true or false. -/
  | tag (name : String) (boolean : Bool)
  /-- The value becomes several tags of the row. -/
  | tagList (name : String)
  | submit (submission : Submission)
  /-- The text of the value selects a branch, if there is one for it. -/
  | dispatch (branches : List (String × Branch))
  deriving Repr

/-- Whether a transformer adds tags to its row. -/
def Transformer.isTag : Transformer → Bool
  | .tag _ _ => true
  | .tagList _ => true
  | _ => false

end RowSignals
