import RowSignals.Proofs.Query.Reading
import RowSignals.Proofs.Query.Rows

/-!
# Names are available

Compiling checks names against a list that grows with every extra, and a row binds the names of
its sources phase by phase. The two agree: what was checked is there when it is read, except for
the values of extras that have none on the row.

* `Extra.HasZeroTotal`, `Query.failed_or_zeroTotal`: why an extra has no value.
* `Query.Compiled.hostname_renders`, `column_blames_none`, `extra_reads`: what the checks
  guarantee for host names, columns and extras.
* `Query.names_available`: all of it, for every row of a compiled query.
-/

namespace RowSignals

open Calendar (Instant)

/-! ## Extras without a value -/

/-- The extra is a percentage whose total is zero. -/
def Extra.HasZeroTotal (extra : Extra) (ctx : RowContext) : Prop :=
  ∃ part total submitter whole number, extra.action = .percent part total submitter ∧
    ctx.source total = .ok whole ∧ whole.number = .ok number ∧ (number == 0) = true

/-- A percentage without a value is one of a total that is zero. -/
theorem Extra.percentage_eq_none {ctx : RowContext} {part total : String}
    (h : percentage? ctx part total = .ok none) :
    ∃ whole number, ctx.source total = .ok whole ∧ whole.number = .ok number ∧
      (number == 0) = true := by
  obtain ⟨whole, hwhole, h⟩ := bind_eq_ok.mp h
  obtain ⟨number, hnumber, h⟩ := bind_eq_ok.mp h
  split at h
  · rename_i hzero
    exact ⟨whole, number, hwhole, hnumber, hzero⟩
  · obtain ⟨value, -, h⟩ := bind_eq_ok.mp h
    obtain ⟨other, -, h⟩ := bind_eq_ok.mp h
    cases h

/-- An extra without a value failed, or it is a percentage of zero. -/
theorem Query.failed_or_zeroTotal {extra : Extra} {ctx : RowContext}
    (h : (extraActivity ctx extra).1 = none) :
    (∃ error signals, (extra.apply ctx).outcome = (.error error, signals)) ∨
      extra.HasZeroTotal ctx := by
  rcases houtcome : (extra.apply ctx).outcome with ⟨error | value, signals⟩
  · exact .inl ⟨error, signals, rfl⟩
  · simp only [extraActivity, houtcome] at h
    subst h
    obtain ⟨name, action⟩ := extra
    -- only a percentage may end without a value
    cases action with
    | submit source transformer =>
      obtain ⟨value, _, -, h⟩ := Emit.after_bind_eq_ok houtcome
      obtain ⟨_, _, -, h⟩ := Emit.after_bind_eq_ok h
      cases h
    | expression expr submission =>
      obtain ⟨value, _, -, h⟩ := Emit.after_bind_eq_ok houtcome
      cases submission with
      | none => cases h
      | some submission =>
        obtain ⟨_, _, -, h⟩ := Emit.after_bind_eq_ok h
        cases h
    | percent part total submitter =>
      obtain ⟨percent, _, hpercent, h⟩ := Emit.after_bind_eq_ok houtcome
      rw [Emit.after_ofExcept] at hpercent
      cases percent with
      | none =>
        obtain ⟨whole, number, hzero⟩ :=
          Extra.percentage_eq_none (congrArg Prod.fst hpercent)
        exact .inr ⟨part, total, submitter, whole, number, rfl, hzero⟩
      | some percent =>
        obtain ⟨_, _, -, h⟩ := Emit.after_bind_eq_ok h
        cases h

namespace Query

section
variable {options : CompileOptions} {query : Query}

theorem hostnameOf_eq_ok {definition : Definition} {sources : List String}
    {hostname : Option Template} (h : hostnameOf definition sources = .ok hostname)
    {template : Template} (htemplate : hostname = some template) :
    template.references ⊆ sources := by
  subst htemplate
  unfold hostnameOf at h
  split at h
  · cases h
  · split at h
    · cases h
    · rename_i hnone
      cases h
      exact subset_of_find?_eq_none hnone

/-- The host name of every row can be rendered. -/
theorem Compiled.hostname_renders (h : query.Compiled options) {template : Template}
    (htemplate : query.hostname = some template) (row : Row) :
    ∃ hostname, template.render (query.sourcesOf row) = .ok hostname := by
  rcases hrender : template.render (query.sourcesOf row) with error | hostname
  · obtain ⟨n, hn, hnone, -⟩ := Template.render_blames hrender
    have hcolumn := hostnameOf_eq_ok h.hostname htemplate hn
    obtain ⟨value, hvalue⟩ := h.bound_of_mem_columnNames row hcolumn
    cases hnone.symm.trans hvalue
  · exact ⟨hostname, rfl⟩

/-- No column fails for lack of a source. -/
theorem Compiled.column_blames_none (h : query.Compiled options) {column : Column}
    (hcolumn : column ∈ query.columns) {row : Row} {ctx : RowContext}
    (hsources : ctx.sources = query.sourcesOf row) {value : Value} {error : RowError}
    (herror : (column.transformer.apply ctx value).Fails error) :
    error.missingName? = none := by
  obtain ⟨-, kind, name, params, hparams⟩ := (columnsFrom_eq_ok h.columns).2 column hcolumn
  by_contra hsome
  obtain ⟨n, hn⟩ := Option.ne_none_iff_exists'.mp hsome
  obtain ⟨hreads, hnone⟩ := Transformer.fails_blames herror n hn
  have hknown : n ∈ query.definition.columnNames := Transformer.reads_of_ofParams hparams hreads
  obtain ⟨value, hvalue⟩ := h.bound_of_mem_columnNames row hknown
  rw [hsources, hvalue] at hnone
  cases hnone

/-- Every extra reads names of columns and of extras before it. -/
theorem Compiled.extra_reads (h : query.Compiled options) {before after : List Extra}
    {extra : Extra} (hextras : query.extras = before ++ extra :: after) {n : String}
    (hn : n ∈ extra.reads) :
    n ∈ query.columns.map Column.name ∨ n ∈ before.map Extra.name := by
  obtain ⟨field, -, -, hparams⟩ := (extrasOf_eq_ok h.extras).2 before extra after hextras
  have hknown := ExtraAction.reads_of_ofParams hparams hn
  rw [h.columnNames_eq]
  exact List.mem_append.mp hknown

/-- No extra reads its own name or that of a later extra. -/
theorem Compiled.extra_reads_no_later (h : query.Compiled options) {before after : List Extra}
    {extra : Extra} (hextras : query.extras = before ++ extra :: after) {n : String}
    (hn : n ∈ extra.reads) : n ≠ extra.name ∧ n ∉ after.map Extra.name := by
  have hnodup := h.names_nodup
  rw [hextras, List.map_append, ← List.append_assoc] at hnodup
  obtain ⟨-, -, hdistinct⟩ := List.nodup_append.mp hnodup
  have hearlier := List.mem_append.mpr (h.extra_reads hextras hn)
  refine ⟨hdistinct n hearlier _ List.mem_cons_self, ?_⟩
  intro hlater
  exact hdistinct n hearlier n (List.mem_cons_of_mem _ hlater) rfl

/-- A name that an extra misses is that of an extra before it without a value on the row. -/
theorem Compiled.missing_extra (h : query.Compiled options) {settings : Options}
    {base : List String} {now : Instant} {row : Row} {before after : List Extra} {extra : Extra}
    (hextras : query.extras = before ++ extra :: after) {n : String} (hn : n ∈ extra.reads)
    (hnone : ((query.rowContext settings base now row).afterExtras before).sources.find? n
      = none) :
    ∃ earliest earlier between, before = earliest ++ earlier :: between ∧ earlier.name = n ∧
      (extraActivity ((query.rowContext settings base now row).afterExtras earliest) earlier).1
        = none := by
  rcases h.extra_reads hextras hn with hcolumn | hextra
  · -- columns are always there
    obtain ⟨column, hmem, rfl⟩ := List.mem_map.mp hcolumn
    rw [h.find?_column_afterExtras settings base now row hmem hextras] at hnone
    cases hnone
  · obtain ⟨earlier, hearlier, rfl⟩ := List.mem_map.mp hextra
    obtain ⟨earliest, between, rfl⟩ := List.append_of_mem hearlier
    refine ⟨earliest, earlier, between, rfl, rfl, ?_⟩
    have hnew : earlier.name ∉ between.map Extra.name := by
      have hnodup := (List.nodup_append.mp h.names_nodup).2.1
      simp only [hextras, List.map_append, List.map_cons, List.append_assoc,
        List.cons_append] at hnodup
      obtain ⟨hfresh, -⟩ := List.nodup_cons.mp (List.nodup_append.mp hnodup).2.1
      intro hmem
      exact hfresh (List.mem_append_left _ hmem)
    by_contra hsome
    obtain ⟨value, hvalue⟩ := Option.ne_none_iff_exists'.mp hsome
    rw [RowContext.find?_afterExtras_of_value hvalue hnew] at hnone
    cases hnone

/-- The names that were checked are available on every row. The host name can be rendered. The
columns are within the row, and none of them fails for lack of a source. An extra reads columns
and extras before it, and nothing else matters to it; where it lacks a source, that is an extra
before it which failed on this row or was a percentage of zero. -/
theorem names_available {raw : Json} (hquery : ofJson options raw = .ok query) {row : Row}
    (hrow : row.length = query.columnCount) (settings : Options) (base : List String)
    (now : Instant) :
    let ctx := query.rowContext settings base now row
    (∀ template, query.hostname = some template →
      ∃ hostname, template.render ctx.sources = .ok hostname) ∧
    (∀ column ∈ query.columns, column.index < row.length ∧ ∀ error signals,
      (column.transformer.apply ctx (cell row column)).outcome = (.error error, signals) →
      error.missingName? = none) ∧
    ∀ before extra after, query.extras = before ++ extra :: after →
      (∀ n ∈ extra.reads,
        (n ∈ query.columns.map Column.name ∨ n ∈ before.map Extra.name) ∧
        n ≠ extra.name ∧ n ∉ after.map Extra.name) ∧
      (∀ (other : RowContext) sources,
        (∀ n ∈ extra.reads, sources.find? n = other.sources.find? n) →
        extra.apply { other with sources } = extra.apply other) ∧
      ∀ error signals n,
        (extra.apply (ctx.afterExtras before)).outcome = (.error error, signals) →
        error.missingName? = some n →
        n ∈ extra.reads ∧
        ∃ earliest earlier between, before = earliest ++ earlier :: between ∧ earlier.name = n ∧
          ((∃ error signals,
              (earlier.apply (ctx.afterExtras earliest)).outcome = (.error error, signals)) ∨
            earlier.HasZeroTotal (ctx.afterExtras earliest)) := by
  intro ctx
  have h := compiled_of_ofJson hquery
  refine ⟨?_, ?_, ?_⟩
  · intro template htemplate
    exact h.hostname_renders htemplate row
  · intro column hcolumn
    refine ⟨?_, ?_⟩
    · have hindex := ((columnsFrom_eq_ok h.columns).2 column hcolumn).1
      rw [hrow, columnCount]
      omega
    · intro error signals herror
      have hsources : ctx.sources = query.sourcesOf row := rfl
      exact h.column_blames_none hcolumn hsources ⟨[], congrArg Prod.fst herror⟩
  · intro before extra after hextras
    refine ⟨?_, fun other sources hagree => Extra.apply_congr hagree, ?_⟩
    · intro n hn
      exact ⟨h.extra_reads hextras hn, h.extra_reads_no_later hextras hn⟩
    · intro error signals n herror hmissing
      -- the name that is missing is read, and what it names is an extra without a value
      obtain ⟨hn, hnone⟩ := Extra.fails_blames ⟨[], congrArg Prod.fst herror⟩ n hmissing
      refine ⟨hn, ?_⟩
      obtain ⟨earliest, earlier, between, hbefore, hname, hvalue⟩ :=
        h.missing_extra hextras hn hnone
      exact ⟨earliest, earlier, between, hbefore, hname, failed_or_zeroTotal hvalue⟩

end

/-- A definition with a host name, a percentage of a column, and an entry of metadata for the
percentage. -/
def percentDefinition : Json :=
  .object [("columns", .array [.object [("name", .string "a"), ("type", .string "gauge")]]),
    ("extras", .array [
      .object [("name", .string "p"), ("part", .string "a"), ("total", .string "a"),
        ("type", .string "percent")],
      .object [("name", .string "y"), ("source", .string "p"), ("type", .string "metadata")]]),
    ("hostname", .string "h{a}"), ("name", .string "q"), ("query", .string "q")]

/-- On a row with a zero the entry lacks the percentage, which had a total of zero. -/
theorem names_available_zero_total :
    let row : Row := [.int 0]
    ∃ query percent entry,
      ofJson Options.default.compileOptions percentDefinition = .ok query ∧
      row.length = query.columnCount ∧ query.extras = [percent, entry] ∧
      let ctx := query.rowContext .default [] ⟨0, 0⟩ row
      (∃ template hostname, query.hostname = some template ∧
        template.render ctx.sources = .ok hostname) ∧
      (entry.apply (ctx.afterExtras [percent])).outcome = (.error (.missingSource "p"), []) ∧
      ∃ earliest earlier between, [percent] = earliest ++ earlier :: between ∧
        earlier.name = "p" ∧
        ((∃ error signals,
            (earlier.apply (ctx.afterExtras earliest)).outcome = (.error error, signals)) ∨
          earlier.HasZeroTotal (ctx.afterExtras earliest)) := by
  intro row
  obtain ⟨-, -, hextra⟩ := @names_available Options.default.compileOptions _ percentDefinition rfl
    row rfl .default [] ⟨0, 0⟩
  refine ⟨_, _, _, rfl, rfl, rfl, ⟨_, _, rfl, rfl⟩, rfl, ?_⟩
  exact ((hextra [_] _ [] rfl).2.2 _ [] "p" rfl rfl).2

end Query

end RowSignals
