import RowSignals.Query.Compiled
import RowSignals.Text.Outline

/-!
# Options

What all queries of an executor share: tags, the host name, the namespace of metric names and
the form in which queries may be written. Options are fixed when the executor is made. Compiling
depends on two of them only, the namespace and the form (`Options.compileOptions`); the others
matter when queries run.

* `Options`: the options, with `Options.default`.
* `Options.handle`: what is logged when the runner fails.
* `Options.outline`: the options for inspection.
-/

namespace RowSignals

/-- What all queries of an executor share. -/
structure Options where
  /-- Tags of every signal. -/
  tags : List String
  /-- The host name where a query has none of its own. -/
  hostname : Option String
  /-- What is logged for the message of a runner that failed. -/
  errorHandler : Option (String → String)
  /-- Comes first in metric names. -/
  nameSpace : Option String
  /-- The entity of metadata. -/
  checkId : String
  /-- The gauge for the time that each query took. -/
  operationTimeMetric : Option String
  form : QueryForm

namespace Options

/-- No tags and no names. -/
def default : Options :=
  { tags := [], hostname := none, errorHandler := none, nameSpace := none, checkId := "",
    operationTimeMetric := none, form := .textOnly }

/-- What is logged for the message of a runner that failed. -/
def handle (options : Options) (problem : String) : String :=
  match options.errorHandler with
  | some handler => handler problem
  | none => problem

/-- What compiling a query depends on. -/
def compileOptions (options : Options) : CompileOptions :=
  ⟨options.nameSpace, options.form⟩

/-- The options for inspection. The handler is shown only to be there. -/
def outline (options : Options) : Text.Outline :=
  .record "ExecutorOptions"
    [("tags", .texts options.tags),
     ("hostname", .option .text options.hostname),
     ("error_handler", .option (fun _ => .text "<fn>") options.errorHandler),
     ("metric_namespace", .option .text options.nameSpace),
     ("check_id", .text options.checkId),
     ("operation_time_metric", .option .text options.operationTimeMetric),
     ("structured_queries", .atom (if options.form = .structured then "true" else "false"))]
    true

end Options

end RowSignals
