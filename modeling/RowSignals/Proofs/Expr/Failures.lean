import RowSignals.Proofs.Expr.Subterms

/-!
# Failures of evaluation

What can go wrong when an expression is evaluated, and which part of it is to blame.

* `EvalError.OfValues`, `FailsOnValues`: errors about values. Operators and functions have no
  others (`binaryOp_failsOnValues`, `compareValues_failsOnValues`, `callBuiltin_failsOnValues`).
* `Blames`: the errors that an expression can have, each with its cause in the expression.
* `eval_blames`: evaluation has no other errors.
-/

namespace RowSignals.Expr

/-! ## Operators and functions -/

/-- An error about values, and not about a name or the number of arguments. -/
def EvalError.OfValues : EvalError → Prop
  | .missingSource _ => False
  | .type (.noArgument _) => False
  | _ => True

/-- A result that is an error, if at all, about values. -/
def FailsOnValues {α : Type} (result : Except EvalError α) : Prop :=
  ∀ error, result = .error error → error.OfValues

namespace FailsOnValues

theorem ok {α : Type} (a : α) : FailsOnValues (.ok a) := by
  intro error h
  cases h

theorem error {α : Type} {e : EvalError} (h : e.OfValues) :
    FailsOnValues (.error e : Except EvalError α) := by
  rintro _ ⟨rfl⟩
  exact h

/-- What is done with a result does not change how it fails. -/
theorem map {α β : Type} {result : Except EvalError α} (h : FailsOnValues result) (f : α → β) :
    FailsOnValues (result.map f) := by
  intro e he
  cases result with
  | error error =>
    cases he
    exact h e rfl
  | ok a => cases he

end FailsOnValues

/-- An operation on floats fails only on its values, such as a zero divisor. -/
theorem floatOp_failsOnValues (op : BinaryOp) (x y : Float) : FailsOnValues (floatOp op x y) := by
  cases op with
  | add | sub | mul => exact .ok _
  | div | floorDiv | mod =>
    simp only [floatOp]
    split
    · exact .error trivial
    · exact .ok _
  | pow =>
    simp only [floatOp]
    split
    · exact .error trivial
    · split
      · exact .error trivial
      · exact .ok _

/-- A whole result falls back on what fails only on its values. -/
theorem wholeOr_failsOnValues (exact : Int) {otherwise : Except EvalError Float}
    (h : FailsOnValues otherwise) : FailsOnValues (wholeOr exact otherwise) := by
  unfold wholeOr
  split
  · exact .ok _
  · exact h.map _

theorem wholeOp_failsOnValues (op : BinaryOp) (x y : Int) : FailsOnValues (wholeOp op x y) := by
  have hfloats := floatOp_failsOnValues op (Number.ofInt x) (Number.ofInt y)
  cases op with
  | add => exact wholeOr_failsOnValues _ hfloats
  | sub => exact wholeOr_failsOnValues _ hfloats
  | mul => exact wholeOr_failsOnValues _ hfloats
  | div => exact hfloats.map _
  | floorDiv =>
    simp only [wholeOp]
    split
    · exact .error trivial
    · split
      · exact .ok _
      · exact hfloats.map _
  | mod =>
    simp only [wholeOp]
    split
    · exact .error trivial
    · exact .ok _
  | pow =>
    simp only [wholeOp]
    split
    · exact hfloats.map _
    · split
      · exact .ok _
      · exact hfloats.map _

theorem unaryOp_failsOnValues (op : UnaryOp) (v : Value) : FailsOnValues (unaryOp op v) := by
  cases op with
  | not => exact .ok _
  | neg | pos =>
    cases hv : Num.of? v with
    | none =>
      simp only [unaryOp, hv]
      exact .error trivial
    | some number =>
      cases number
      all_goals
        simp only [unaryOp, hv]
        exact .ok _

/-- An operation on two values fails only on them. -/
theorem binaryOp_failsOnValues (op : BinaryOp) (l r : Value) :
    FailsOnValues (binaryOp op l r) := by
  have hnumbers : FailsOnValues (numberOp op l r) := by
    unfold numberOp
    split
    · exact wholeOp_failsOnValues _ _ _
    · exact (floatOp_failsOnValues _ _ _).map _
    · exact .error trivial
  unfold binaryOp
  split
  · exact .ok _
  · exact .ok _
  · exact hnumbers

/-- Ordering two values fails only on them, if they are of different classes. -/
theorem ordering?_failsOnValues (symbol : String) (l r : Value) :
    FailsOnValues (ordering? symbol l r) := by
  unfold ordering?
  split
  · exact .ok _
  · exact .ok _
  · split
    · exact .ok _
    · split
      · exact .ok _
      · exact .error trivial

theorem compareValues_failsOnValues (op : CompareOp) (l r : Value) :
    FailsOnValues (compareValues op l r) := by
  cases op with
  | eq => exact .ok _
  | ne => exact .ok _
  | lt | le | gt | ge => exact (ordering?_failsOnValues _ _ _).map _

theorem wholePart_failsOnValues (f : Float) : FailsOnValues (wholePart f) := by
  unfold wholePart
  dsimp only
  split
  · exact .ok _
  · exact .error trivial

theorem extreme_failsOnValues (symbol : String) (wanted : Ordering) (best : Value)
    (values : List Value) : FailsOnValues (extreme symbol wanted best values) := by
  induction values generalizing best with
  | nil => exact .ok _
  | cons v values ih =>
    unfold extreme
    split
    · rename_i e he
      exact .error (ordering?_failsOnValues symbol v best e he)
    · exact ih _

/-- Rounding fails only on the value and the number of digits. -/
theorem roundValue_failsOnValues (v : Value) (digits : Option Int) :
    FailsOnValues (roundValue v digits) := by
  unfold roundValue
  split
  · exact .error trivial
  · exact .ok _
  · exact wholePart_failsOnValues _
  · split
    · exact .ok _
    · exact wholePart_failsOnValues _
  · exact .ok _

theorem toWhole_failsOnValues (v : Value) : FailsOnValues (toWhole v) := by
  unfold toWhole
  split
  · exact .ok _
  · exact .ok _
  · exact wholePart_failsOnValues _
  · split
    · exact .ok _
    · exact .error trivial
  · exact .error trivial

/-- A function fails only on the values of its arguments, provided that there are any. -/
theorem callBuiltin_failsOnValues (f : Builtin) (first : Value) (rest : List Value) :
    FailsOnValues (callBuiltin f (first :: rest)) := by
  cases f with
  | abs =>
    show FailsOnValues (absolute first)
    unfold absolute
    split
    · exact .ok _
    · exact .ok _
    · exact .error trivial
  | min => exact extreme_failsOnValues _ _ _ _
  | max => exact extreme_failsOnValues _ _ _ _
  | round =>
    simp only [callBuiltin]
    split
    · exact roundValue_failsOnValues _ _
    · exact roundValue_failsOnValues _ _
    · exact .error trivial
  | float =>
    simp only [callBuiltin]
    split
    · exact .ok _
    · exact .error trivial
  | int => exact toWhole_failsOnValues first

/-! ## Expressions -/

/-- `Blames sources e error`: the error is about values, or about a name in `e` that is not
bound, or about a call in `e` without arguments. -/
def Blames (sources : Sources) (e : Expr) (error : EvalError) : Prop :=
  error.OfValues ∨ (∃ n, Reads e n ∧ sources.find? n = none ∧ error = .missingSource n) ∨
    ∃ f, Part (.call f []) e ∧ error = .type (.noArgument f.name)

section
variable {sources : Sources} {e : Expr} {error : EvalError}

/-- An error that a part is to blame for is one of the whole. -/
theorem Blames.mono {whole : Expr} (h : Blames sources e error)
    (hpart : ∀ m, Part m e → Part m whole) : Blames sources whole error := by
  rcases h with h | ⟨n, hn, hnone, herror⟩ | ⟨f, hf, herror⟩
  · exact .inl h
  · exact .inr (.inl ⟨n, hn.mono hpart, hnone, herror⟩)
  · exact .inr (.inr ⟨f, hpart _ hf, herror⟩)

/-- An error in the links of a chain is that of an operand or one about values. -/
theorem evalLinks_error {left : Value} {links : List (CompareOp × Expr)}
    (h : evalLinks sources left links = .error error) :
    error.OfValues ∨ ∃ link ∈ links, link.2.eval sources = .error error := by
  induction links generalizing left with
  | nil => cases h
  | cons link links ih =>
    obtain ⟨op, e⟩ := link
    simp only [evalLinks] at h
    split at h
    · rename_i operandError he
      cases h
      exact .inr ⟨_, List.mem_cons_self, he⟩
    · split at h
      · rename_i compareError hcompare
        cases h
        exact .inl (compareValues_failsOnValues _ _ _ _ hcompare)
      · cases h
      · rcases ih h with hvalues | ⟨link, hlink, he⟩
        · exact .inl hvalues
        · exact .inr ⟨link, List.mem_cons_of_mem _ hlink, he⟩

/-- An error in arguments is that of an argument. -/
theorem evalArgs_error {args : List Expr} (h : evalArgs sources args = .error error) :
    ∃ arg ∈ args, arg.eval sources = .error error := by
  induction args with
  | nil => cases h
  | cons arg args ih =>
    simp only [evalArgs] at h
    split at h
    · rename_i argError harg
      cases h
      exact ⟨arg, List.mem_cons_self, harg⟩
    · split at h
      · rename_i restError hrest
        cases h
        obtain ⟨other, hother, he⟩ := ih hrest
        exact ⟨other, List.mem_cons_of_mem _ hother, he⟩
      · cases h

/-- There are as many values as arguments. -/
theorem evalArgs_length {args : List Expr} {values : List Value}
    (h : evalArgs sources args = .ok values) : values.length = args.length := by
  induction args generalizing values with
  | nil =>
    cases h
    rfl
  | cons arg args ih =>
    simp only [evalArgs] at h
    split at h
    · cases h
    · split at h
      · cases h
      · rename_i others hothers
        cases h
        exact congrArg (· + 1) (ih hothers)

/-- A look-up that fails is to blame on the name that it reads. -/
theorem blames_of_lookup {n : String} (hreads : Reads e n)
    (h : eval sources (.source n) = .error error) : Blames sources e error := by
  simp only [eval] at h
  split at h
  · cases h
  · rename_i hnone
    cases h
    exact .inr (.inl ⟨n, hreads, hnone, rfl⟩)

/-- Every error of an evaluation has its cause in the expression. -/
theorem eval_blames (h : e.eval sources = .error error) : Blames sources e error := by
  induction e using rec_parts generalizing error with
  | literal value => cases h
  | name n => exact blames_of_lookup (.inl .self) h
  | source n => exact blames_of_lookup (.inr .self) h
  | unary op e ih =>
    simp only [eval] at h
    split at h
    · rename_i operandError he
      cases h
      exact (ih he).mono fun _ => .operand
    · exact .inl (unaryOp_failsOnValues _ _ _ h)
  | binary op l r ihl ihr =>
    simp only [eval] at h
    split at h
    · rename_i leftError hl
      cases h
      exact (ihl hl).mono fun _ => .left
    · split at h
      · rename_i rightError hr
        cases h
        exact (ihr hr).mono fun _ => .right
      · exact .inl (binaryOp_failsOnValues _ _ _ _ h)
  | chained first links ihf ihl =>
    simp only [eval] at h
    split at h
    · rename_i firstError hfirst
      cases h
      exact (ihf hfirst).mono fun _ => .first
    · rcases evalLinks_error h with hvalues | ⟨link, hlink, he⟩
      · exact .inl hvalues
      · exact (ihl link hlink he).mono fun _ => .link hlink
  | boolean op l r ihl ihr =>
    simp only [eval] at h
    split at h
    · rename_i leftError hl
      cases h
      exact (ihl hl).mono fun _ => .boolLeft
    · -- the right side is either evaluated, or the left value is the result
      split at h
      · exact (ihr h).mono fun _ => .boolRight
      · cases h
      · cases h
      · exact (ihr h).mono fun _ => .boolRight
  | conditional body test orelse ihb iht iho =>
    simp only [eval] at h
    split at h
    · rename_i testError htest
      cases h
      exact (iht htest).mono fun _ => .test
    · split at h
      · exact (ihb h).mono fun _ => .body
      · exact (iho h).mono fun _ => .orelse
  | call f args ih =>
    simp only [eval] at h
    split at h
    · rename_i argError hargs
      cases h
      obtain ⟨arg, harg, he⟩ := evalArgs_error hargs
      exact (ih arg harg he).mono fun _ => .arg harg
    · rename_i values hvalues
      have hlength := evalArgs_length hvalues
      cases values with
      | nil =>
        -- only a call without arguments evaluates to no values
        obtain rfl := List.eq_nil_of_length_eq_zero hlength.symm
        cases h
        exact .inr (.inr ⟨f, .self, rfl⟩)
      | cons first rest => exact .inl (callBuiltin_failsOnValues _ _ _ _ h)

end

end RowSignals.Expr
