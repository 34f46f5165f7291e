import RowSignals.Proofs.Expr.Compiled
import RowSignals.Proofs.Query.Emission

/-!
# What transformers and extras read

Compiling checks the names that a transformer or an extra is going to read, each at the place
where it stands: sources of extras and of match items, templates of messages, references of
expressions. Here the names that are read are listed in one place, and compared with what the
checks let through and with what applying can miss.

* `Transformer.reads`, `Extra.reads`: the names that are read.
* `ServiceCheck.ofParams_eq_ok`, `Branch.ofItem_eq_ok`, `Transformer.dispatchOf_eq_ok`: what
  parameters say from which a part was compiled.
* `Transformer.reads_of_ofParams`, `ExtraAction.reads_of_ofParams`: all of them were known.
* `RowError.Blames`: an error that a name, if any, is to blame for is one of a name that is
  read and not bound; `Transformer.fails_blames`, `Extra.fails_blames`.
* `Extra.apply_congr`: sources matter only under the names that are read.
-/

namespace RowSignals

open Calendar (Instant)

/-! ## The names that are read -/

/-- The names in the message. -/
def ServiceCheck.reads (check : ServiceCheck) : List String :=
  check.message.elim [] Template.references

/-- The names that are read besides the value. -/
def Submission.reads : Submission → List String
  | .serviceCheck check => check.reads
  | _ => []

/-- The names that a branch reads. -/
def Branch.reads (branch : Branch) : List String :=
  branch.source :: branch.submission.reads

/-- The names that are read besides the value, whatever the value is. -/
def Transformer.reads : Transformer → List String
  | .submit submission => submission.reads
  | .dispatch branches => branches.flatMap fun (_, branch) => branch.reads
  | _ => []

/-- The names that are read. -/
def ExtraAction.reads : ExtraAction → List String
  | .submit source transformer => source :: transformer.reads
  | .expression expr submission =>
    expr.ast.references ++ submission.elim [] Submission.reads
  | .percent part total _ => [part, total]

/-- The names that an extra reads. -/
def Extra.reads (extra : Extra) : List String :=
  extra.action.reads

/-- A transformer with branches reads what the branch of a value reads. -/
theorem Branch.reads_subset_of_lookup {branches : List (String × Branch)} {key : String}
    {branch : Branch} (h : branches.lookup key = some branch) :
    branch.reads ⊆ Transformer.reads (.dispatch branches) := by
  intro n hn
  obtain ⟨earlier, later, rfl, -⟩ := List.lookup_eq_some_iff.mp h
  exact List.mem_flatMap.mpr ⟨_, List.mem_append_right _ List.mem_cons_self, hn⟩

/-! ## Names that are read were known -/

/-- The check of names looks for the first one that is not known. -/
theorem subset_of_find?_eq_none {names sources : List String}
    (h : names.find? (!sources.contains ·) = none) : names ⊆ sources := by
  intro n hn
  simpa using List.find?_eq_none.mp h n hn

section
variable {scope : Scope} {name : String} {params : Params}

theorem Scope.requireSource_eq_ok {param : String} {result : Unit}
    (h : scope.requireSource param name = .ok result) : name ∈ scope.sources := by
  unfold requireSource at h
  split at h
  · rename_i hname
    exact List.contains_iff_mem.mp hname
  · cases h

/-- The message of a service check refers to known sources. -/
theorem ServiceCheck.messageOf_eq_ok {text : String} {template : Template}
    (h : messageOf scope text = .ok template) : template.references ⊆ scope.sources := by
  unfold messageOf at h
  dsimp only at h
  split at h
  · cases h
  · rename_i hnone
    cases h
    exact subset_of_find?_eq_none hnone

/-- A service check has the message and the tags of its parameters. -/
theorem ServiceCheck.ofParams_eq_ok {check : ServiceCheck}
    (h : ofParams scope name params = .ok check) :
    (∃ text : Option String, text.mapM (messageOf scope) = .ok check.message) ∧
      params.tags = .ok check.tags := by
  obtain ⟨states, -, h⟩ := bind_eq_ok.mp h
  dsimp only at h
  split at h
  · cases h
  · obtain ⟨states, -, h⟩ := bind_eq_ok.mp h
    obtain ⟨text, -, h⟩ := bind_eq_ok.mp h
    obtain ⟨message, hmessage, h⟩ := bind_eq_ok.mp h
    obtain ⟨tags, htags, h⟩ := bind_eq_ok.mp h
    cases h
    exact ⟨⟨text, hmessage⟩, htags⟩

theorem ServiceCheck.reads_of_ofParams {check : ServiceCheck}
    (h : ofParams scope name params = .ok check) : check.reads ⊆ scope.sources := by
  obtain ⟨⟨text, hmessage⟩, -⟩ := ofParams_eq_ok h
  unfold reads
  cases text with
  | none =>
    have hnone : none = check.message := Except.ok.inj hmessage
    rw [← hnone]
    exact List.nil_subset _
  | some text =>
    obtain ⟨template, htemplate, hmessage⟩ := map_eq_ok.mp hmessage
    rw [← hmessage]
    exact messageOf_eq_ok htemplate

/-- Only the messages of service checks read names. -/
theorem Submission.reads_of_ofParams {kind : SubmitKind} {submission : Submission}
    (h : ofParams scope kind name params = .ok submission) : submission.reads ⊆ scope.sources := by
  cases kind with
  | serviceCheck =>
    obtain ⟨check, hcheck, h⟩ := bind_eq_ok.mp h
    cases h
    exact ServiceCheck.reads_of_ofParams hcheck
  | metric kind =>
    obtain ⟨submitter, -, h⟩ := bind_eq_ok.mp h
    cases h
    exact List.nil_subset _
  | monotonicGauge =>
    obtain ⟨submitter, -, h⟩ := bind_eq_ok.mp h
    cases h
    exact List.nil_subset _
  | temporalPercent =>
    obtain ⟨scale, -, h⟩ := bind_eq_ok.mp h
    obtain ⟨submitter, -, h⟩ := bind_eq_ok.mp h
    cases h
    exact List.nil_subset _
  | timeElapsed =>
    obtain ⟨format, -, h⟩ := bind_eq_ok.mp h
    obtain ⟨submitter, -, h⟩ := bind_eq_ok.mp h
    cases h
    exact List.nil_subset _
  | metadata =>
    simp only [ofParams] at h
    split at h
    · obtain ⟨scheme, -, h⟩ := bind_eq_ok.mp h
      cases h
      exact List.nil_subset _
    · cases h
      exact List.nil_subset _

/-- An item is read from an object whose entries are the parameters of its submission. Its source
is a known one, be it its own or that of the column. -/
theorem Branch.ofItem_eq_ok {columnSource : Option String} {key : String} {raw : Json}
    {result : String × Branch} (h : ofItem scope columnSource key raw = .ok result) :
    result.1 = key ∧ result.2.source ∈ scope.sources ∧ ∃ item kind name, raw = .object item ∧
      Submission.ofParams scope kind name item = .ok result.2.submission := by
  unfold ofItem at h
  split at h
  · rename_i item
    obtain ⟨name, -, h⟩ := bind_eq_ok.mp h
    obtain ⟨kindName, -, h⟩ := bind_eq_ok.mp h
    split at h
    · rename_i kind _
      obtain ⟨source, -, h⟩ := bind_eq_ok.mp h
      obtain ⟨_, hsource, h⟩ := bind_eq_ok.mp h
      split at h
      · rename_i submission hsubmission
        cases h
        exact ⟨rfl, Scope.requireSource_eq_ok hsource, item, kind, name, rfl, hsubmission⟩
      · cases h
    · cases h
  · cases h

theorem Branch.reads_of_ofItem {columnSource : Option String} {key : String} {raw : Json}
    {branch : String × Branch} (h : ofItem scope columnSource key raw = .ok branch) :
    branch.2.reads ⊆ scope.sources := by
  obtain ⟨-, hsource, item, kind, name, -, hsubmission⟩ := ofItem_eq_ok h
  exact List.cons_subset.mpr ⟨hsource, Submission.reads_of_ofParams hsubmission⟩

/-- A column that chooses an item has one branch for each of its items. -/
theorem Transformer.dispatchOf_eq_ok {transformer : Transformer}
    (h : dispatchOf scope params = .ok transformer) : ∃ items columnSource branches,
    params.requiredMapping "items" = .ok items ∧
    items.mapM (fun item => Branch.ofItem scope columnSource item.1 item.2) = .ok branches ∧
    transformer = .dispatch branches := by
  obtain ⟨items, hitems, h⟩ := bind_eq_ok.mp h
  obtain ⟨columnSource, -, h⟩ := bind_eq_ok.mp h
  -- the source of the column is checked on its own if there is one, and then again with every
  -- branch that uses it
  obtain ⟨branches, hbranches, h⟩ : ∃ branches,
      items.mapM (fun item => Branch.ofItem scope columnSource item.1 item.2) = .ok branches ∧
        Except.ok (.dispatch branches) = Except.ok (ε := ParamError) transformer := by
    cases columnSource with
    | none => exact bind_eq_ok.mp h
    | some source =>
      obtain ⟨_, -, h⟩ := bind_eq_ok.mp h
      exact bind_eq_ok.mp h
  cases h
  exact ⟨items, columnSource, branches, hitems, hbranches, rfl⟩

/-- A column that chooses an item reads known sources, as each of its items does. -/
theorem Transformer.reads_of_dispatchOf {transformer : Transformer}
    (h : dispatchOf scope params = .ok transformer) : transformer.reads ⊆ scope.sources := by
  obtain ⟨items, columnSource, branches, -, hbranches, rfl⟩ := dispatchOf_eq_ok h
  intro n hn
  obtain ⟨branch, hbranch, hn⟩ := List.mem_flatMap.mp hn
  obtain ⟨item, -, hitem⟩ := exists_of_mem_mapM hbranches hbranch
  exact Branch.reads_of_ofItem hitem hn

/-- Every name that a transformer reads was known when it was compiled. -/
theorem Transformer.reads_of_ofParams {kind : String} {transformer : Transformer}
    (h : ofParams scope kind name params = .ok transformer) :
    transformer.reads ⊆ scope.sources := by
  unfold ofParams at h
  split at h
  · rename_i kind _
    cases kind with
    | source =>
      cases h
      exact List.nil_subset _
    | tag =>
      cases h
      exact List.nil_subset _
    | tagList =>
      cases h
      exact List.nil_subset _
    | dispatch => exact reads_of_dispatchOf h
    | submit kind =>
      obtain ⟨submission, hsubmission, rfl⟩ := map_eq_ok.mp h
      exact Submission.reads_of_ofParams hsubmission
  · cases h

theorem ExtraAction.knownSource_eq_ok {key source : String}
    (h : knownSource scope params key = .ok source) : source ∈ scope.sources := by
  obtain ⟨text, -, h⟩ := bind_eq_ok.mp h
  obtain ⟨_, hsource, h⟩ := bind_eq_ok.mp h
  cases h
  exact Scope.requireSource_eq_ok hsource

theorem ExtraAction.submissionOf_eq_ok {submission : Option Submission}
    (h : submissionOf scope name params = .ok submission) :
    submission.elim [] Submission.reads ⊆ scope.sources := by
  obtain ⟨kindName, -, h⟩ := bind_eq_ok.mp h
  cases kindName with
  | none =>
    cases h
    exact List.nil_subset _
  | some kindName =>
    dsimp only at h
    split at h
    · obtain ⟨submission, hsubmission, rfl⟩ := map_eq_ok.mp h
      exact Submission.reads_of_ofParams hsubmission
    · cases h

/-- Every name that an extra reads was known when it was compiled. -/
theorem ExtraAction.reads_of_ofParams {kind : String} {action : ExtraAction}
    (h : ofParams scope kind name params = .ok action) : action.reads ⊆ scope.sources := by
  unfold ofParams at h
  split at h
  · obtain ⟨text, -, h⟩ := bind_eq_ok.mp h
    dsimp only at h
    split at h
    · cases h
    · rename_i expr hexpr
      obtain ⟨submission, hsubmission, h⟩ := bind_eq_ok.mp h
      cases h
      refine List.append_subset.mpr ⟨?_, submissionOf_eq_ok hsubmission⟩
      intro n hn
      have hreads := Expr.mem_references_iff.mp hn
      exact CompiledExpr.references_known hexpr ((CompiledExpr.mem_references_iff hexpr).mpr hreads)
  · obtain ⟨part, hpart, h⟩ := bind_eq_ok.mp h
    obtain ⟨total, htotal, h⟩ := bind_eq_ok.mp h
    obtain ⟨submitter, -, h⟩ := bind_eq_ok.mp h
    cases h
    refine List.cons_subset.mpr ⟨knownSource_eq_ok hpart, ?_⟩
    exact List.cons_subset.mpr ⟨knownSource_eq_ok htotal, List.nil_subset _⟩
  · obtain ⟨source, hsource, h⟩ := bind_eq_ok.mp h
    obtain ⟨transformer, htransformer, h⟩ := bind_eq_ok.mp h
    cases h
    refine List.cons_subset.mpr ⟨knownSource_eq_ok hsource, ?_⟩
    exact Transformer.reads_of_ofParams htransformer

end

/-! ## What a failure blames -/

/-- The name that an error is about, if it is about a source that is not there. -/
def RowError.missingName? : RowError → Option String
  | .missingSource n => some n
  | .eval (.missingSource n) => some n
  | _ => none

/-- The error is about values, or about one of the names, which is not bound. -/
def RowError.Blames (sources : Sources) (names : List String) (error : RowError) : Prop :=
  ∀ n, error.missingName? = some n → n ∈ names ∧ sources.find? n = none

section
variable {ctx : RowContext} {error : RowError}

/-- What blames a name among some blames one among more. -/
theorem RowError.Blames.mono {sources : Sources} {names others : List String}
    (h : error.Blames sources names) (hsubset : names ⊆ others) : error.Blames sources others := by
  intro n hn
  obtain ⟨hmem, hnone⟩ := h n hn
  exact ⟨hsubset hmem, hnone⟩

/-- An error about values blames no name. -/
theorem RowError.Blames.of_none {sources : Sources} {names : List String}
    (h : error.missingName? = none) : error.Blames sources names := by
  intro n hn
  cases h.symm.trans hn

theorem RowContext.source_blames {n : String} (h : ctx.source n = .error error) :
    error.Blames ctx.sources [n] := by
  unfold source at h
  split at h
  · cases h
  · rename_i hnone
    cases h
    rintro m ⟨rfl⟩
    exact ⟨List.mem_singleton_self n, hnone⟩

/-- A template that cannot be rendered misses one of its references. -/
theorem Template.render_blames {template : Template} {sources : Sources}
    (h : template.render sources = .error error) :
    ∃ n ∈ template.references, sources.find? n = none ∧ error = .missingSource n := by
  obtain ⟨segment, hsegment, herror⟩ := exists_of_mapM_error (map_eq_error.mp h)
  cases segment with
  | literal text => cases herror
  | place n =>
    simp only [Segment.render] at herror
    split at herror
    · cases herror
    · rename_i hnone
      cases herror
      exact ⟨n, List.mem_filterMap.mpr ⟨_, hsegment, rfl⟩, hnone, rfl⟩

theorem Value.number_error {value : Value} (h : value.number = .error error) :
    error.missingName? = none := by
  unfold number at h
  split at h
  · cases h
  · cases h
    rfl

theorem TimeFormat.elapsed_error {format : TimeFormat} {value : Value} {now : Instant}
    (h : format.elapsed value now = .error error) : error.missingName? = none := by
  unfold elapsed at h
  split at h
  · split at h
    · cases h
    · cases h
      rfl
  · split at h
    · cases h
    · cases h
      rfl
  · split at h
    · cases h
    · cases h
      rfl

theorem VersionScheme.parts_error {scheme : VersionScheme} {raw : String}
    (h : scheme.parts raw = .error error) : error.missingName? = none := by
  unfold parts at h
  split at h
  · cases h
  · cases h
    rfl

end

section
variable {ctx : RowContext} {value : Value} {error : RowError}

theorem Submitter.not_fails {submitter : Submitter} {number : Float} :
    ¬ (submitter.submit ctx number).Fails error :=
  (submitter.submit_certain ctx number).not_fails error

/-- A service check that fails blames a name that it reads. -/
theorem ServiceCheck.fails_blames {check : ServiceCheck} (h : (check.apply ctx value).Fails error) :
    error.Blames ctx.sources check.reads := by
  rcases Emit.fails_ofExcept_bind h with h | ⟨message, -, h⟩
  · unfold renderMessage at h
    split at h
    · cases h
    · rename_i template htemplate
      split at h
      · cases h
      · obtain ⟨n, hn, hnone, rfl⟩ := Template.render_blames (map_eq_error.mp h)
        rintro m ⟨rfl⟩
        refine ⟨?_, hnone⟩
        rw [reads, htemplate]
        exact hn
  · exact absurd h (Emit.not_fails_submit _ _)

/-- Submitting a version that does not fit blames no name. -/
theorem VersionScheme.fails_error {scheme : VersionScheme} {entity raw : String}
    (h : (scheme.submit entity raw).Fails error) : error.missingName? = none := by
  rcases Emit.fails_ofExcept_bind h with h | ⟨parts, -, h⟩
  · exact parts_error h
  · exact absurd h ((Emit.Certain.forM fun _ => .submit _).not_fails error)

/-- A submission that fails blames a name in a message, if it blames a name at all. -/
theorem Submission.fails_blames {submission : Submission}
    (h : (submission.apply ctx value).Fails error) :
    error.Blames ctx.sources submission.reads := by
  cases submission with
  | metric submitter =>
    rcases Emit.fails_ofExcept_bind h with h | ⟨number, -, h⟩
    · exact .of_none (Value.number_error h)
    · exact absurd h Submitter.not_fails
  | monotonicGauge total count =>
    rcases Emit.fails_ofExcept_bind h with h | ⟨number, -, h⟩
    · exact .of_none (Value.number_error h)
    · rcases Emit.fails_bind h with h | ⟨_, h⟩
      · exact absurd h Submitter.not_fails
      · exact absurd h Submitter.not_fails
  | temporalPercent submitter scale =>
    rcases Emit.fails_ofExcept_bind h with h | ⟨number, -, h⟩
    · exact .of_none (Value.number_error h)
    · exact absurd h Submitter.not_fails
  | serviceCheck check => exact ServiceCheck.fails_blames h
  | timeElapsed submitter format =>
    rcases Emit.fails_ofExcept_bind h with h | ⟨seconds, -, h⟩
    · exact .of_none (TimeFormat.elapsed_error h)
    · exact absurd h Submitter.not_fails
  | metadata name => exact absurd h (Emit.not_fails_submit _ _)
  | version name scheme => exact .of_none (VersionScheme.fails_error h)

/-- A transformer that fails blames a name that it reads, if it blames a name at all. -/
theorem Transformer.fails_blames {transformer : Transformer}
    (h : (transformer.apply ctx value).Fails error) :
    error.Blames ctx.sources transformer.reads := by
  cases transformer with
  | source => exact absurd h (Emit.not_fails_pure _ _)
  | tag name boolean => exact absurd h (Emit.not_fails_pure _ _)
  | tagList name => exact absurd h (Emit.not_fails_pure _ _)
  | submit submission => exact Submission.fails_blames h
  | dispatch branches =>
    simp only [Transformer.apply] at h
    split at h
    · rename_i branch hbranch
      have hsubset := Branch.reads_subset_of_lookup hbranch
      rcases Emit.fails_ofExcept_bind h with h | ⟨value, -, h⟩
      · refine (RowContext.source_blames h).mono fun n hn => hsubset ?_
        rw [List.mem_singleton.mp hn]
        exact List.mem_cons_self
      · exact (Submission.fails_blames h).mono fun n hn => hsubset (List.mem_cons_of_mem _ hn)
    · exact absurd h (Emit.not_fails_pure _ _)

/-- An expression that fails on a name blames one of its references. -/
theorem Extra.evaluate_blames {expr : CompiledExpr} {sources : Sources}
    (h : evaluate expr sources = .error error) : error.Blames sources expr.ast.references := by
  unfold evaluate at h
  split at h
  · cases h
  · rename_i problem hproblem
    cases h
    intro n hn
    -- of the errors of an evaluation only this one is about a name
    obtain rfl : problem = .missingSource n := by
      cases problem with
      | missingSource m =>
        cases hn
        rfl
      | _ => cases hn
    rcases Expr.eval_blames hproblem with hvalues | ⟨m, hm, hnone, herror⟩ | ⟨f, -, herror⟩
    · cases hvalues
    · cases herror
      exact ⟨Expr.mem_references_iff.mpr hm, hnone⟩
    · cases herror

/-- A percentage that fails on a name blames one of its two. -/
theorem Extra.percentage_blames {part total : String}
    (h : percentage? ctx part total = .error error) :
    error.Blames ctx.sources [part, total] := by
  rcases bind_eq_error.mp h with h | ⟨whole, -, h⟩
  · refine (RowContext.source_blames h).mono fun n hn => ?_
    exact List.mem_cons_of_mem _ hn
  · rcases bind_eq_error.mp h with h | ⟨number, -, h⟩
    · exact .of_none (Value.number_error h)
    · split at h
      · cases h
      · rcases bind_eq_error.mp h with h | ⟨value, -, h⟩
        · refine (RowContext.source_blames h).mono fun n hn => ?_
          rw [List.mem_singleton.mp hn]
          exact List.mem_cons_self
        · rcases bind_eq_error.mp h with h | ⟨number, -, h⟩
          · exact .of_none (Value.number_error h)
          · cases h

/-- An extra that fails blames a name that it reads, if it blames a name at all. -/
theorem Extra.fails_blames {extra : Extra} (h : (extra.apply ctx).Fails error) :
    error.Blames ctx.sources extra.reads := by
  obtain ⟨name, action⟩ := extra
  cases action with
  | submit source transformer =>
    rcases Emit.fails_ofExcept_bind h with h | ⟨value, -, h⟩
    · refine (RowContext.source_blames h).mono fun n hn => ?_
      rw [List.mem_singleton.mp hn]
      exact List.mem_cons_self
    · rcases Emit.fails_bind h with h | ⟨_, h⟩
      · exact (Transformer.fails_blames h).mono fun n hn => List.mem_cons_of_mem _ hn
      · exact absurd h (Emit.not_fails_pure _ _)
  | expression expr submission =>
    rcases Emit.fails_ofExcept_bind h with h | ⟨value, -, h⟩
    · exact (evaluate_blames h).mono fun n hn => List.mem_append_left _ hn
    · cases submission with
      | none => exact absurd h (Emit.not_fails_pure _ _)
      | some submission =>
        rcases Emit.fails_bind h with h | ⟨_, h⟩
        · exact (Submission.fails_blames h).mono fun n hn => List.mem_append_right _ hn
        · exact absurd h (Emit.not_fails_pure _ _)
  -- The submission itself cannot fail, so only the two sources can be to blame.
  | percent part total submitter =>
    rcases Emit.fails_ofExcept_bind h with h | ⟨percent, -, h⟩
    · exact percentage_blames h
    · cases percent with
      | none => exact absurd h (Emit.not_fails_pure _ _)
      | some percent =>
        rcases Emit.fails_bind h with h | ⟨_, h⟩
        · exact absurd h Submitter.not_fails
        · exact absurd h (Emit.not_fails_pure _ _)

end

/-! ## Nothing else is read -/

section
variable {ctx : RowContext} {value : Value} {others : Sources}

/-- A template is rendered from its references alone. -/
theorem Template.render_congr {template : Template} {sources : Sources}
    (h : ∀ n ∈ template.references, others.find? n = sources.find? n) :
    template.render others = template.render sources := by
  obtain ⟨segments⟩ := template
  have hsegments : segments.mapM (Segment.render others)
      = segments.mapM (Segment.render sources) := by
    induction segments with
    | nil => rfl
    | cons segment segments ih =>
      rw [List.mapM_cons, List.mapM_cons]
      cases segment with
      | literal text => rw [ih h]; rfl
      | place n =>
        obtain ⟨hn, hrest⟩ := List.forall_mem_cons.mp h
        rw [ih hrest, Segment.render, hn]
        rfl
  exact congrArg (Except.map String.join) hsegments

/-- A service check depends only on the names that it reads. -/
theorem ServiceCheck.apply_congr {check : ServiceCheck}
    (h : ∀ n ∈ check.reads, others.find? n = ctx.sources.find? n) :
    check.apply { ctx with sources := others } value = check.apply ctx value := by
  have hmessage : check.renderMessage (check.status value) others
      = check.renderMessage (check.status value) ctx.sources := by
    obtain ⟨name, states, message, tags⟩ := check
    cases message with
    | none => rfl
    | some template => simp only [renderMessage, Template.render_congr h]
  simp only [apply, hmessage]

theorem Submission.apply_congr {submission : Submission}
    (h : ∀ n ∈ submission.reads, others.find? n = ctx.sources.find? n) :
    submission.apply { ctx with sources := others } value = submission.apply ctx value := by
  cases submission with
  | serviceCheck check => exact ServiceCheck.apply_congr h
  | _ => rfl

theorem RowContext.source_congr {n : String} (h : others.find? n = ctx.sources.find? n) :
    RowContext.source { ctx with sources := others } n = ctx.source n := by
  rw [source, source, h]

/-- Sources matter to a transformer only under the names that it reads. -/
theorem Transformer.apply_congr {transformer : Transformer}
    (h : ∀ n ∈ transformer.reads, others.find? n = ctx.sources.find? n) :
    transformer.apply { ctx with sources := others } value = transformer.apply ctx value := by
  cases transformer with
  | submit submission => exact Submission.apply_congr h
  | dispatch branches =>
    simp only [apply]
    split
    · rename_i branch hbranch
      have hreads : ∀ n ∈ branch.reads, others.find? n = ctx.sources.find? n :=
        fun n hn => h n (Branch.reads_subset_of_lookup hbranch hn)
      obtain ⟨hsource, hsubmission⟩ := List.forall_mem_cons.mp hreads
      rw [RowContext.source_congr hsource]
      exact congrArg _ (funext fun _ => Submission.apply_congr hsubmission)
    · rfl
  | _ => rfl

/-- Sources matter to an extra only under the names that it reads. -/
theorem Extra.apply_congr {extra : Extra}
    (h : ∀ n ∈ extra.reads, others.find? n = ctx.sources.find? n) :
    extra.apply { ctx with sources := others } = extra.apply ctx := by
  obtain ⟨name, action⟩ := extra
  cases action with
  | submit source transformer =>
    obtain ⟨hsource, htransformer⟩ := List.forall_mem_cons.mp h
    simp only [apply]
    rw [RowContext.source_congr hsource]
    exact congrArg _ (funext fun _ => by rw [Transformer.apply_congr htransformer])
  | expression expr submission =>
    obtain ⟨hexpr, hsubmission⟩ := List.forall_mem_append.mp h
    have heval : expr.eval others = expr.eval ctx.sources := Expr.eval_congr hexpr
    simp only [apply, evaluate]
    rw [heval]
    cases submission with
    | none => rfl
    | some submission =>
      exact congrArg _ (funext fun _ => by simp only [Submission.apply_congr hsubmission])
  | percent part total submitter =>
    obtain ⟨hpart, hrest⟩ := List.forall_mem_cons.mp h
    obtain ⟨htotal, -⟩ := List.forall_mem_cons.mp hrest
    simp only [apply, percentage?]
    rw [RowContext.source_congr hpart, RowContext.source_congr htotal]
    rfl

end

end RowSignals
