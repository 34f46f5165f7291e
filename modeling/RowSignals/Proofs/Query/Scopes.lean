import RowSignals.Proofs.Expr.LongestNames
import RowSignals.Proofs.Query.Reading
import RowSignals.Query.Compiled

/-!
# The order of known names

A scope lists the sources that can be read. Whatever is compiled against it asks only whether a
name is in the list, also where the longest of several bare names is looked for: two names of one
length cannot stand at the same place. So the order of the list does not matter.

* `Names.longestReference_congr`, `Names.resolveNames_congr`: bare names are found alike.
* `CompiledExpr.compile_congr`, `Transformer.ofParams_congr`, `ExtraAction.ofParams_congr`: lists
  with the same names give the same results, errors included.
* `Query.extrasOf_congr`: the extras of a query.
-/

namespace RowSignals

/-! ## Bare names -/

namespace Names

section
variable {names others : List (List Char)} (hsame : ∀ name, name ∈ others ↔ name ∈ names)
include hsame

/-- The longest name at a place depends only on the set of names. -/
theorem longestReference_congr (text : List Char) :
    longestReference others text = longestReference names text := by
  refine Option.ext fun name => ?_
  rw [longestReference_eq_some_iff, longestReference_eq_some_iff]
  simp only [StandsAt, hsame]

theorem resolveFrom_congr (fuel : Nat) (before : Option Char) (text : List Char) :
    resolveFrom fuel others before text = resolveFrom fuel names before text := by
  induction fuel generalizing before text with
  | zero =>
    cases text with
    | nil => rfl
    | cons c rest => rfl
  | succ fuel ih =>
    cases text with
    | nil => rw [resolveFrom.eq_def, resolveFrom.eq_def]
    | cons c rest => simp only [resolveFrom, ih, longestReference_congr hsame]

end

theorem resolveNames_congr {known others : List String} (hsame : ∀ n, n ∈ others ↔ n ∈ known)
    (source : String) : resolveNames others source = resolveNames known source := by
  have hchars : ∀ name, name ∈ others.map String.toList ↔ name ∈ known.map String.toList := by
    intro name
    simp only [List.mem_map, hsame]
  exact congrArg String.ofList (resolveFrom_congr hchars _ _ _)

end Names

/-! ## Expressions -/

section
variable {known others : List String} (hsame : ∀ n, n ∈ others ↔ n ∈ known)
include hsame

/-- Lists with the same members contain the same names. -/
theorem contains_congr (n : String) : others.contains n = known.contains n := by
  rw [Bool.eq_iff_iff, List.contains_iff_mem, List.contains_iff_mem]
  exact hsame n

namespace Expr

/-- The check of names depends only on the set of known names. -/
theorem checkReferences_congr (resolution : Resolution) (e : Expr) :
    checkReferences others resolution e = checkReferences known resolution e := by
  have hname (bare : Bool) (n : String) :
      checkName others resolution bare n = checkName known resolution bare n := by
    simp only [checkName, contains_congr hsame]
  -- The known names are asked for at the names and the look-ups alone.
  induction e using rec_parts with
  | literal value => rfl
  | name n => exact hname true n
  | source key => exact hname false key
  | unary op e ih => exact ih
  | binary op l r ihl ihr => simp only [checkReferences, ihl, ihr]
  | chained first links ihf ihl =>
    have hlinks : checkLinks others resolution links = checkLinks known resolution links := by
      induction links with
      | nil => rfl
      | cons link links ih =>
        obtain ⟨hlink, hlinks⟩ := List.forall_mem_cons.mp ihl
        simp only [checkLinks, hlink, ih hlinks]
    simp only [checkReferences, ihf, hlinks]
  | boolean op l r ihl ihr => simp only [checkReferences, ihl, ihr]
  | conditional body test orelse ihb iht iho => simp only [checkReferences, ihb, iht, iho]
  | call f args ih =>
    have hargs : checkArgs others resolution args = checkArgs known resolution args := by
      induction args with
      | nil => rfl
      | cons arg args ihargs =>
        obtain ⟨harg, hargs⟩ := List.forall_mem_cons.mp ih
        simp only [checkArgs, harg, ihargs hargs]
    exact hargs

end Expr

/-- The order of the known names does not matter to an expression. -/
theorem CompiledExpr.compile_congr (source : String) (resolution : Resolution) :
    compile source others resolution = compile source known resolution := by
  simp only [compile, Names.resolveNames_congr hsame, Expr.checkReferences_congr hsame]

end

/-! ## Transformers and extras -/

section
variable {scope : Scope} {others : List String} (hsame : ∀ n, n ∈ others ↔ n ∈ scope.sources)
include hsame

/-- Whether a source is known depends only on that set. -/
theorem Scope.requireSource_congr (param name : String) :
    Scope.requireSource { scope with sources := others } param name
      = scope.requireSource param name := by
  simp only [requireSource, contains_congr hsame]

theorem ServiceCheck.ofParams_congr (name : String) (params : Params) :
    ofParams { scope with sources := others } name params = ofParams scope name params := by
  have hmessage : messageOf { scope with sources := others } = messageOf scope := by
    funext text
    simp only [messageOf, contains_congr hsame]
  simp only [ofParams, hmessage]
  rfl

theorem Submission.ofParams_congr (kind : SubmitKind) (name : String) (params : Params) :
    ofParams { scope with sources := others } kind name params
      = ofParams scope kind name params := by
  cases kind with
  | serviceCheck => simp only [ofParams, ServiceCheck.ofParams_congr hsame]
  | _ => rfl

theorem Branch.ofItem_congr (columnSource : Option String) (key : String) (raw : Json) :
    ofItem { scope with sources := others } columnSource key raw
      = ofItem scope columnSource key raw := by
  simp only [ofItem, Submission.ofParams_congr hsame, Scope.requireSource_congr hsame]

/-- The order of the known names does not matter to a transformer. -/
theorem Transformer.ofParams_congr (kind name : String) (params : Params) :
    ofParams { scope with sources := others } kind name params
      = ofParams scope kind name params := by
  have hdispatch : dispatchOf { scope with sources := others } params
      = dispatchOf scope params := by
    simp only [dispatchOf, Branch.ofItem_congr hsame, Scope.requireSource_congr hsame]
  unfold ofParams
  split
  · rename_i kind _
    cases kind with
    | dispatch => exact hdispatch
    | submit kind => simp only [ofKind, Submission.ofParams_congr hsame]
    | _ => rfl
  · rfl

theorem ExtraAction.knownSource_congr (params : Params) (key : String) :
    knownSource { scope with sources := others } params key = knownSource scope params key := by
  simp only [knownSource, Scope.requireSource_congr hsame]

/-- The order of the known names does not matter to an extra. -/
theorem ExtraAction.ofParams_congr (kind name : String) (params : Params) :
    ofParams { scope with sources := others } kind name params
      = ofParams scope kind name params := by
  have hsubmission : submissionOf { scope with sources := others } name params
      = submissionOf scope name params := by
    simp only [submissionOf, Submission.ofParams_congr hsame]
  unfold ofParams
  split
  · simp only [expressionOf, CompiledExpr.compile_congr hsame, hsubmission]
  · simp only [percentOf, knownSource_congr hsame]
    rfl
  · simp only [submitOf, knownSource_congr hsame, Transformer.ofParams_congr hsame]

end

/-! ## Queries -/

namespace Query

/-- The order of the columns does not matter to the extras. -/
theorem extrasOf_congr {scope : Scope} {others : List String}
    (hsame : ∀ n, n ∈ others ↔ n ∈ scope.sources) (query : String) (fields : List Field) :
    extrasOf { scope with sources := others } query fields = extrasOf scope query fields := by
  induction fields generalizing scope others with
  | nil => rfl
  | cons field fields ih =>
    have hfield : Extra.ofField { scope with sources := others } query field
        = Extra.ofField scope query field := by
      simp only [Extra.ofField, ExtraAction.ofParams_congr hsame]
    simp only [extrasOf, hfield]
    refine congrArg _ (funext fun extra => ?_)
    have hmore : ∀ n, n ∈ others ++ [extra.name] ↔ n ∈ scope.sources ++ [extra.name] := by
      intro n
      simp only [List.mem_append, hsame]
    have hrest := @ih { scope with sources := scope.sources ++ [extra.name] } _ hmore
    rw [hrest]

/-- The order of the columns does not matter to the host name. -/
theorem hostnameOf_congr {definition other : Definition} {sources others : List String}
    (hsame : ∀ n, n ∈ others ↔ n ∈ sources) (hname : other.name = definition.name)
    (hhostname : other.hostname = definition.hostname) :
    hostnameOf other others = hostnameOf definition sources := by
  simp only [hostnameOf, contains_congr hsame, hname, hhostname]

end Query

end RowSignals
