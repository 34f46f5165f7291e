import RowSignals.Main
import RowSignals.Manager
import RowSignals.Proofs.Executor.Throttling
import RowSignals.Proofs.Expr.Printing
import RowSignals.Recording.Log
import RowSignals.Recording.Runner
import RowSignals.Recording.Samples
import RowSignals.Recording.Sink
import RowSignals.Proofs.Expr.Failures
import RowSignals.Proofs.Expr.Compiled
import RowSignals.Proofs.Query.Emission
import RowSignals.Proofs.Query.Names
import RowSignals.Proofs.Query.Removal
import RowSignals.Proofs.Query.Reading
import RowSignals.Proofs.Query.Availability
import RowSignals.Proofs.Expr.Explicit
import RowSignals.Proofs.Expr.Scanning
import RowSignals.Proofs.Expr.Replacing
import RowSignals.Proofs.Expr.BareNames
import RowSignals.Proofs.Executor.Isolation
import RowSignals.Proofs.Expr.Nesting
import RowSignals.Proofs.Expr.Canonical
import RowSignals.Proofs.Expr.Reported
import RowSignals.Proofs.Expr.Standing
import RowSignals.Proofs.Query.Stream
import RowSignals.Proofs.Query.Definitions
import RowSignals.Proofs.Query.Columns
import RowSignals.Proofs.Query.Tags
import RowSignals.Proofs.Query.Alike
import RowSignals.Proofs.Query.Reordering
import RowSignals.Proofs.Query.Scopes
import RowSignals.Proofs.Expr.Lookups
import RowSignals.Proofs.Expr.Chains
import RowSignals.Proofs.Expr.Exactness
import RowSignals.Proofs.Expr.LongestNames
import RowSignals.Proofs.Expr.Tiling
import RowSignals.Proofs.Number.Positive
import RowSignals.Proofs.Definition.Documented
import RowSignals.Proofs.Definition.Acceptance
import RowSignals.Proofs.Definition.Repetition
import RowSignals.Proofs.CustomQueries.Merging
import RowSignals.Proofs.CustomQueries.Duplicates
import RowSignals.Proofs.CustomQueries.Naming
import RowSignals.Proofs.CustomQueries.Collapsing
import RowSignals.Proofs.Expr.Order
import RowSignals.Proofs.Template.Writing
import RowSignals.Proofs.Version.Grammar
import RowSignals.Proofs.Pattern.Matching
import RowSignals.Proofs.Version.Captures
import RowSignals.Proofs.Version.Accepted
import RowSignals.Proofs.Json.Nulls
import RowSignals.Proofs.Transformer.Nulls
import RowSignals.Proofs.Query.Nulls
import RowSignals.Proofs.Expr.Power
import RowSignals.Proofs.Executor.RepeatedTags
import RowSignals.Proofs.Expr.Literals
