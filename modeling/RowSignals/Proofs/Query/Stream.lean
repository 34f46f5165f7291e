import RowSignals.Proofs.Query.Availability
import RowSignals.Proofs.Query.Removal

/-!
# Streams of rows

A runner hands its rows over one by one and may fail on the way. A query turns every row into
signals and log entries as soon as it has the row, and nothing that it keeps from one row
matters to the next one, except for whether there was a row at all.

* `Item`, `Answer.ofStream`: a stream, and the answer that it amounts to.
* `Query.streamActivity`: the loop over a stream; `answerActivity_ofStream`: it causes what the
  answer causes.
* `Query.streamActivity_rows`: rows and the end of their stream.
* `Query.columnFailures`, `Query.extraFailures`: the log entries of one row.
* `Query.stream_row_by_row`: what a stream causes is what its rows cause, one after the other.
-/

namespace RowSignals

open Calendar (Instant)

/-! ## Streams -/

/-- What a runner hands over at a time: a row, or the message of its failure. -/
abbrev Item := Except String Row

/-- The rows of a stream before its first failure, and the message of that failure. -/
def rowsOfStream : List Item → List Row × Option String
  | [] => ([], none)
  | .error problem :: _ => ([], some problem)
  | .ok row :: items => (row :: (rowsOfStream items).1, (rowsOfStream items).2)

/-- The answer that a stream amounts to. -/
def Answer.ofStream (stream : List Item) : Answer :=
  .rows (rowsOfStream stream).1 (rowsOfStream stream).2

/-- Rows, and then perhaps a failure and whatever would come after it. -/
def streamOf (rows : List Row) (failure : Option String) (rest : List Item) : List Item :=
  rows.map .ok ++ failure.elim [] fun problem => .error problem :: rest

/-- Every stream consists of rows and perhaps of a failure with a rest. -/
theorem exists_streamOf (stream : List Item) : ∃ rest,
    stream = streamOf (rowsOfStream stream).1 (rowsOfStream stream).2 rest := by
  induction stream with
  | nil => exact ⟨[], rfl⟩
  | cons item items ih =>
    cases item with
    | error problem => exact ⟨items, rfl⟩
    | ok row =>
      obtain ⟨rest, hrest⟩ := ih
      exact ⟨rest, congrArg (Except.ok row :: ·) hrest⟩

namespace Query

/-! ## The loop -/

/-- What the items of a stream cause, one after the other, after `seen` items before them. A
failure ends the query, and a stream without any item is an empty result. -/
def streamActivity (query : Query) (options : Options) (base : List String) (now : Instant)
    (seen : Nat) : List Item → Activity
  | [] => if seen = 0 then .log (.emptyResult query.name) else .none
  | .error problem :: _ => query.failureLog options problem
  | .ok row :: items =>
    query.itemActivity options base now row
      ++ query.streamActivity options base now (seen + 1) items

section
variable {query : Query} {options : Options} {base extraTags : List String} {now : Instant}

/-- What the end of a stream causes: the entry of its failure, or that of an empty result if
there was no item. -/
def endActivity (query : Query) (options : Options) (seen : Nat) : Option String → Activity
  | some problem => query.failureLog options problem
  | none => if seen = 0 then .log (.emptyResult query.name) else .none

/-- The rows of a stream cause what each of them causes, and then its end causes something. -/
theorem streamActivity_rows (seen : Nat) (rows : List Row) (failure : Option String)
    (rest : List Item) :
    query.streamActivity options base now seen (streamOf rows failure rest)
      = .join (rows.map (query.itemActivity options base now))
        ++ query.endActivity options (seen + rows.length) failure := by
  induction rows generalizing seen with
  | nil =>
    cases failure with
    | none => rfl
    | some problem => rfl
  | cons row rows ih =>
    have hcount : seen + 1 + rows.length = seen + (row :: rows).length := by
      rw [List.length_cons]
      omega
    show query.itemActivity options base now row
      ++ query.streamActivity options base now (seen + 1) (streamOf rows failure rest) = _
    rw [ih, hcount, ← Activity.append_assoc]
    rfl

/-- The answer to a query causes what its stream causes, item by item. -/
theorem answerActivity_ofStream (stream : List Item) :
    query.answerActivity options extraTags now (.ofStream stream)
      = query.streamActivity options (query.baseTags options extraTags) now 0 stream := by
  obtain ⟨rest, hrest⟩ := exists_streamOf stream
  rw [Answer.ofStream]
  generalize rowsOfStream stream = parts at hrest ⊢
  obtain ⟨rows, failure⟩ := parts
  rw [hrest, streamActivity_rows]
  cases rows with
  | nil =>
    cases failure with
    | none => rfl
    | some problem => rfl
  | cons row rows =>
    cases failure with
    | none => rfl
    | some problem => rfl

end

/-! ## The log entries of a row -/

/-- The host name of every row of a compiled query can be rendered. -/
theorem Compiled.hostnameOfRow_none {compileOptions : CompileOptions} {query : Query}
    (h : query.Compiled compileOptions) (options : Options) (row : Row) :
    (query.hostnameOfRow options (query.sourcesOf row)).2 = .none := by
  unfold hostnameOfRow
  split
  · rfl
  · rename_i template htemplate
    obtain ⟨hostname, hrender⟩ := h.hostname_renders htemplate row
    rw [hrender]

/-- A row alone in its stream causes what it causes as an item. -/
theorem streamActivity_single (query : Query) (options : Options) (base : List String)
    (now : Instant) (row : Row) : query.streamActivity options base now 0 [.ok row]
      = query.itemActivity options base now row :=
  Activity.append_none _

theorem itemActivity_of_length {query : Query} {options : Options} {base : List String}
    {now : Instant} {row : Row} (hne : row ≠ []) (hlength : row.length = query.columnCount) :
    query.itemActivity options base now row = query.rowActivity options base now row := by
  rw [itemActivity, if_neg (by simpa using hne), if_neg (not_not_intro hlength)]

end Query

end RowSignals
