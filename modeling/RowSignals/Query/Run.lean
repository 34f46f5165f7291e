import RowSignals.Log
import RowSignals.Options

/-!
# Running a query

A runner answers a query with rows. Every row of the right length is turned into signals in
three phases: its values become sources and tags, then the columns submit, then the extras. A
value that fails is logged and stops nothing else.

* `Answer`, `Runner`: what answers queries.
* `Activity`: what a run causes.
* `Query.rowActivity`: one row; `Query.run`: one query.

An activity is a record of what was handed to the runner, submitted and logged, each in order.
Activities are put together by appending. The order between a signal and a log entry is not
kept, since the two go to different places.
-/

namespace RowSignals

open Calendar (Instant)

/-- The values of one row. -/
abbrev Row := List Value

/-- What a runner gives for a query. -/
inductive Answer where
  /-- The query could not be run at all. -/
  | refused (problem : String)
  /-- Rows, after which the runner may have failed. -/
  | rows (rows : List Row) (failure : Option String)
  deriving Repr

/-- Something that answers queries. -/
abbrev Runner := Json → Answer

/-- What a run causes: queries handed to the runner, signals and log entries, each in order. -/
structure Activity where
  calls : List Json
  signals : List Signal
  logs : List LogEntry
  deriving Repr

namespace Activity

/-- Nothing. -/
def none : Activity := ⟨[], [], []⟩

/-- One activity after another. -/
def append (a b : Activity) : Activity :=
  ⟨a.calls ++ b.calls, a.signals ++ b.signals, a.logs ++ b.logs⟩

instance : Append Activity := ⟨append⟩

/-- One activity after another. -/
def join (activities : List Activity) : Activity :=
  activities.foldr append none

/-- A log entry. -/
def log (entry : LogEntry) : Activity := ⟨[], [], [entry]⟩

/-- A signal. -/
def submit (signal : Signal) : Activity := ⟨[], [signal], []⟩

/-- A query handed to the runner. -/
def call (query : Json) : Activity := ⟨[query], [], []⟩

end Activity

/-- The first occurrences of tags, in order. -/
def distinctTags (tags : List String) : List String :=
  firstOccurrences tags

namespace Query

/-! ## One row -/

/-- The value of a column in a row. -/
def cell (row : Row) (column : Column) : Value :=
  row.getD column.index .null

/-- The sources of a row: the values of the columns under their names. -/
def sourcesOf (query : Query) (row : Row) : Sources :=
  query.columns.foldl (fun sources column => sources.bind column.name (cell row column)) []

/-- The tags of a row: those of the query, and then those of its tag columns. -/
def tagsOf (query : Query) (base : List String) (row : Row) : List String :=
  distinctTags
    (base ++ query.columns.flatMap fun column => column.transformer.rowTags (cell row column))

/-- The host name of a row, and a log entry if the template fails. -/
def hostnameOfRow (query : Query) (options : Options) (sources : Sources) :
    Option String × Activity :=
  match query.hostname with
  | none => (options.hostname, .none)
  | some template =>
    match template.render sources with
    | .ok hostname => (some hostname, .none)
    | .error error => (options.hostname, .log (.hostnameFailed query.name error))

/-- What one column causes. -/
def columnActivity (ctx : RowContext) (row : Row) (column : Column) : Activity :=
  match (column.transformer.apply ctx (cell row column)).outcome with
  | (.ok (), signals) => ⟨[], signals, []⟩
  -- whatever was submitted before the failure stays
  | (.error error, signals) => ⟨[], signals, [.transformFailed column.name error]⟩

/-- What one extra causes, and its value. -/
def extraActivity (ctx : RowContext) (extra : Extra) : Option Value × Activity :=
  match (extra.apply ctx).outcome with
  | (.ok value, signals) => (value, ⟨[], signals, []⟩)
  | (.error error, signals) => (none, ⟨[], signals, [.transformFailed extra.name error]⟩)

/-- What extras cause. The value of an extra is a source for the ones after it. -/
def extrasActivity (ctx : RowContext) : List Extra → Activity
  | [] => .none
  | extra :: extras =>
    let (value, activity) := extraActivity ctx extra
    let ctx := match value with
      | some value => { ctx with sources := ctx.sources.bind extra.name value }
      | none => ctx
    activity ++ extrasActivity ctx extras

/-- What a row of the right length causes. -/
def rowActivity (query : Query) (options : Options) (base : List String) (now : Instant)
    (row : Row) : Activity :=
  let sources := query.sourcesOf row
  let (hostname, hostnameLog) := query.hostnameOfRow options sources
  let ctx : RowContext := ⟨sources, query.tagsOf base row, hostname, options.checkId, now⟩
  hostnameLog ++ .join (query.columns.map (columnActivity ctx row)) ++
    extrasActivity ctx query.extras

/-! ## One query -/

/-- What one row of an answer causes, whatever its length. -/
def itemActivity (query : Query) (options : Options) (base : List String) (now : Instant)
    (row : Row) : Activity :=
  if row.isEmpty then .log (.emptyResult query.name)
  else if row.length ≠ query.columnCount then
    .log (.wrongLength query.name query.columnCount row.length)
  else query.rowActivity options base now row

/-- The tags of all rows: those of the options, of the query, and of this run. -/
def baseTags (query : Query) (options : Options) (extraTags : List String) : List String :=
  distinctTags (options.tags ++ query.definition.tags ++ extraTags)

/-- The log entry for a runner that failed. -/
def failureLog (query : Query) (options : Options) (problem : String) : Activity :=
  .log (.queryFailed query.name (options.handle problem))

/-- What the answer to a query causes. -/
def answerActivity (query : Query) (options : Options) (extraTags : List String)
    (now : Instant) : Answer → Activity
  | .refused problem => query.failureLog options problem
  | .rows [] none => .log (.emptyResult query.name)
  -- rows that came before a failure are processed all the same
  | .rows rows failure =>
    .join (rows.map (query.itemActivity options (query.baseTags options extraTags) now)) ++
      failure.elim .none (query.failureLog options)

/-- Hand a query to the runner and process the answer. -/
def run (query : Query) (runner : Runner) (options : Options) (extraTags : List String)
    (now : Instant) : Activity :=
  .call query.definition.query ++
    query.answerActivity options extraTags now (runner query.definition.query)

end Query

end RowSignals
