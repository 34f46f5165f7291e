import RowSignals.Proofs.Query.Emission
import RowSignals.Proofs.Query.Rows

/-!
# Failing columns and extras

A transformer that fails submits nothing, and the rest of the row goes on as if it were not
there.

* `Query.extrasActivity_remove`: an extra that fails leaves one log entry and changes nothing
  else.
* `failure_leaves_no_trace`: failing transformers submit nothing, failing extras could be left
  out, and failing columns are sources all the same.
-/

namespace RowSignals

open Calendar (Instant)

namespace Query

/-- An extra that fails causes its log entry and has no value. -/
theorem extraActivity_of_error {ctx : RowContext} {extra : Extra} {error : RowError}
    {signals : List Signal} (h : (extra.apply ctx).outcome = (.error error, signals)) :
    extraActivity ctx extra = (none, .log (.transformFailed extra.name error)) := by
  obtain rfl := (extra.apply_allOrNothing ctx).outcome h
  simp only [extraActivity, h]
  rfl

/-- Extras with one that fails cause what the others cause, and the log entry of the failed
one in its place. -/
theorem extrasActivity_remove {ctx : RowContext} {before after : List Extra} {extra : Extra}
    {error : RowError} {signals : List Signal}
    (h : (extra.apply (ctx.afterExtras before)).outcome = (.error error, signals)) :
    extrasActivity ctx (before ++ after)
        = extrasActivity ctx before ++ extrasActivity (ctx.afterExtras before) after ∧
      extrasActivity ctx (before ++ extra :: after)
        = extrasActivity ctx before ++ (.log (.transformFailed extra.name error)
          ++ extrasActivity (ctx.afterExtras before) after) := by
  have hextra := extraActivity_of_error h
  have hnone : (extraActivity (ctx.afterExtras before) extra).1 = none := by rw [hextra]
  refine ⟨extrasActivity_append ctx before after, ?_⟩
  rw [extrasActivity_append, extrasActivity_cons, RowContext.afterExtra_of_none hnone, hextra]

/-- A row with an extra that fails submits what it submits without the extra, and logs one
entry more. -/
theorem rowActivity_remove {query : Query} {options : Options} {base : List String}
    {now : Instant} {row : Row} {before after : List Extra} {extra : Extra} {error : RowError}
    {signals : List Signal} (hextras : query.extras = before ++ extra :: after)
    (h : (extra.apply ((query.rowContext options base now row).afterExtras before)).outcome
      = (.error error, signals)) :
    (query.rowActivity options base now row).signals
        = (rowActivity { query with extras := before ++ after } options base now row).signals ∧
      ∃ earlier later,
        (query.rowActivity options base now row).logs
            = earlier ++ .transformFailed extra.name error :: later ∧
          (rowActivity { query with extras := before ++ after } options base now row).logs
            = earlier ++ later := by
  obtain ⟨hwithout, hwith⟩ := extrasActivity_remove h
  -- only the extras differ, so that both rows start with the same activity
  obtain ⟨start, hquery, hremoved⟩ : ∃ start : Activity,
      query.rowActivity options base now row = start
        ++ extrasActivity (query.rowContext options base now row) query.extras ∧
      rowActivity { query with extras := before ++ after } options base now row = start
        ++ extrasActivity (query.rowContext options base now row) (before ++ after) :=
    ⟨_, rowActivity_eq .., rfl⟩
  rw [hquery, hremoved, hextras, hwith, hwithout]
  refine ⟨rfl, start.logs ++ (extrasActivity (query.rowContext options base now row) before).logs,
    (extrasActivity ((query.rowContext options base now row).afterExtras before) after).logs,
    ?_, ?_⟩
  · exact (List.append_assoc ..).symm
  · exact (List.append_assoc ..).symm

/-- Failures stay where they are. A transformer or an extra that fails submits nothing. If an
extra of a compiled query fails on a row, the row submits exactly what it submits without that
extra, and logs one entry more. And every column, also one whose transformer fails, is a source
for the other columns and for all extras. -/
theorem failure_leaves_no_trace :
    (∀ (transformer : Transformer) (ctx : RowContext) (value : Value) error signals,
      (transformer.apply ctx value).outcome = (.error error, signals) → signals = []) ∧
    (∀ (extra : Extra) (ctx : RowContext) error signals,
      (extra.apply ctx).outcome = (.error error, signals) → signals = []) ∧
    ∀ compileOptions raw query, ofJson compileOptions raw = .ok query →
      ∀ (options : Options) (base : List String) (now : Instant) (row : Row),
        (∀ before extra after error signals, query.extras = before ++ extra :: after →
          (extra.apply ((query.rowContext options base now row).afterExtras before)).outcome
            = (.error error, signals) →
          (query.rowActivity options base now row).signals
            = (rowActivity { query with extras := before ++ after } options base now row).signals ∧
          ∃ earlier later,
            (query.rowActivity options base now row).logs
              = earlier ++ .transformFailed extra.name error :: later ∧
            (rowActivity { query with extras := before ++ after } options base now row).logs
              = earlier ++ later) ∧
        ∀ column ∈ query.columns, ∀ before after, query.extras = before ++ after →
          ((query.rowContext options base now row).afterExtras before).sources.find? column.name
            = some (cell row column) := by
  refine ⟨?_, ?_, ?_⟩
  · intro transformer ctx value error signals h
    exact (transformer.apply_allOrNothing ctx value).outcome h
  · intro extra ctx error signals h
    exact (extra.apply_allOrNothing ctx).outcome h
  · intro compileOptions raw query hquery options base now row
    refine ⟨?_, ?_⟩
    · intro before extra after error signals hextras h
      exact rowActivity_remove hextras h
    · intro column hcolumn before after hextras
      exact (compiled_of_ofJson hquery).find?_column_afterExtras options base now row hcolumn
        hextras

/-- A definition with a gauge that is the source of two extras, another gauge and an entry of
metadata. -/
def gaugeDefinition : Json :=
  .object [("columns", .array [.object [("name", .string "a"), ("type", .string "gauge")]]),
    ("extras", .array [
      .object [("name", .string "x"), ("source", .string "a"), ("type", .string "gauge")],
      .object [("name", .string "y"), ("source", .string "a"), ("type", .string "metadata")]]),
    ("name", .string "q"), ("query", .string "q")]

/-- On a text the column and the first extra fail. The second extra submits the text, also
when the first one is left out. -/
theorem failure_leaves_no_trace_gauges :
    ∃ query column broken other, ofJson Options.default.compileOptions gaugeDefinition = .ok query ∧
      query.columns = [column] ∧ query.extras = [broken, other] ∧
      let ctx := query.rowContext .default [] ⟨0, 0⟩ [.str "up"]
      (column.transformer.apply ctx (.str "up")).outcome
        = (.error (.notNumeric (Value.str "up").notNumeric), []) ∧
      (broken.apply ctx).outcome = (.error (.notNumeric (Value.str "up").notNumeric), []) ∧
      ctx.sources.find? "a" = some (.str "up") ∧
      (query.rowActivity .default [] ⟨0, 0⟩ [.str "up"]).signals
        = (rowActivity { query with extras := [other] } .default [] ⟨0, 0⟩ [.str "up"]).signals ∧
      (query.rowActivity .default [] ⟨0, 0⟩ [.str "up"]).signals = [.metadata "" "y" "up"] := by
  obtain ⟨-, -, hrow⟩ := failure_leaves_no_trace
  obtain ⟨hremove, hsources⟩ := hrow Options.default.compileOptions gaugeDefinition _ rfl
    .default [] ⟨0, 0⟩ [.str "up"]
  refine ⟨_, _, _, _, rfl, rfl, rfl, rfl, rfl, ?_, ?_, rfl⟩
  · exact hsources _ List.mem_cons_self [] _ rfl
  · exact (hremove [] _ _ _ [] rfl rfl).1

end Query

end RowSignals
