import RowSignals.Expr.Eval

/-!
# Chains of comparisons

A chain compares neighbouring operands and stops at the first link that does not hold. It means the
same as its links joined by `and`, although there every operand between two links stands twice.

* `conjunction`: the links of a chain, joined by `and` from the right.
* `evalLinks_stops`, `evalLinks_goesOn`: what follows some links matters only if they hold.
* `eval_conjunction`: the conjunction has the outcome of the chain.
* `chained_eq_conjunction`: both also need the same operands.
-/

namespace RowSignals.Expr

/-- The comparisons of neighbouring operands, joined by `and` from the right. -/
def conjunction (first : Expr) (op : CompareOp) (second : Expr) : List (CompareOp × Expr) → Expr
  | [] => .chained first [(op, second)]
  | (next, third) :: rest =>
    .boolean .and (.chained first [(op, second)]) (conjunction second next third rest)

section
variable {sources : Sources} {first second : Expr} {op : CompareOp}

/-! ## Where a chain stops -/

/-- Whether links hold is a flag. -/
theorem exists_of_evalLinks {left v : Value} {links : List (CompareOp × Expr)}
    (h : evalLinks sources left links = .ok v) : ∃ hold, v = .bool hold := by
  induction links generalizing left with
  | nil =>
    cases h
    exact ⟨true, rfl⟩
  | cons link links ih =>
    simp only [evalLinks] at h
    split at h
    · cases h
    · split at h
      · cases h
      · cases h
        exact ⟨false, rfl⟩
      · exact ih h

/-- Links that do not all hold decide the outcome: no link after them is looked at. -/
theorem evalLinks_stops {left : Value} {links : List (CompareOp × Expr)}
    (h : evalLinks sources left links ≠ .ok (.bool true)) (others : List (CompareOp × Expr)) :
    evalLinks sources left (links ++ others) = evalLinks sources left links := by
  induction links generalizing left with
  | nil => exact absurd rfl h
  | cons link links ih =>
    obtain ⟨op, e⟩ := link
    simp only [List.cons_append, evalLinks] at h ⊢
    cases he : eval sources e with
    | error error => rfl
    | ok right =>
      simp only [he] at h
      dsimp only
      cases hlink : compareValues op left right with
      | error error => rfl
      | ok holds =>
        cases holds with
        | false => rfl
        | true =>
          simp only [hlink] at h
          exact ih h

/-- After links that hold, the chain goes on from the value of their last operand. -/
theorem evalLinks_goesOn {left : Value} {links : List (CompareOp × Expr)}
    (h : evalLinks sources left links = .ok (.bool true)) :
    ∃ last, ∀ others, evalLinks sources left (links ++ others) = evalLinks sources last others := by
  induction links generalizing left with
  | nil => exact ⟨left, fun others => rfl⟩
  | cons link links ih =>
    obtain ⟨op, e⟩ := link
    simp only [List.cons_append, evalLinks] at h ⊢
    cases he : eval sources e with
    | error error =>
      rw [he] at h
      cases h
    | ok right =>
      simp only [he] at h
      dsimp only
      cases hlink : compareValues op left right with
      | error error =>
        rw [hlink] at h
        cases h
      | ok holds =>
        rw [hlink] at h
        cases holds with
        | false => cases h
        | true => exact ih h

/-! ## Chains and conjunctions -/

/-- What follows a comparison that does not hold is not evaluated. -/
theorem eval_chained_stops {links : List (CompareOp × Expr)}
    (h : eval sources (.chained first links) ≠ .ok (.bool true))
    (others : List (CompareOp × Expr)) :
    eval sources (.chained first (links ++ others)) = eval sources (.chained first links) := by
  simp only [eval] at h ⊢
  cases hfirst : eval sources first with
  | error error => rfl
  | ok left =>
    rw [hfirst] at h
    exact evalLinks_stops h others

/-- The operand after links that hold is evaluated. -/
theorem eval_chained_fails {links : List (CompareOp × Expr)}
    (h : eval sources (.chained first links) = .ok (.bool true)) {third : Expr}
    {error : EvalError} (herror : eval sources third = .error error) (next : CompareOp)
    (others : List (CompareOp × Expr)) :
    eval sources (.chained first (links ++ (next, third) :: others)) = .error error := by
  simp only [eval] at h ⊢
  cases hfirst : eval sources first with
  | error error =>
    rw [hfirst] at h
    cases h
  | ok left =>
    rw [hfirst] at h
    obtain ⟨last, hlast⟩ := evalLinks_goesOn h
    show evalLinks sources left _ = _
    rw [hlast, evalLinks, herror]

/-- A chain stops at its first link, unless it holds. Then it goes on like the chain that starts
with the second operand: evaluated once more, this operand has the value that it had. -/
theorem eval_chained_cons (rest : List (CompareOp × Expr)) :
    eval sources (.chained first ((op, second) :: rest))
      = match eval sources (.chained first [(op, second)]) with
        | .ok (.bool true) => eval sources (.chained second rest)
        | outcome => outcome := by
  simp only [eval, evalLinks]
  cases eval sources first with
  | error error => rfl
  | ok left =>
    cases eval sources second with
    | error error => rfl
    | ok right =>
      dsimp only
      cases compareValues op left right with
      | error error => rfl
      | ok holds =>
        cases holds with
        | false => rfl
        | true => rfl

/-- `and` skips its right side unless the flag on its left is up. -/
theorem eval_and {l : Expr} (h : ∀ v, eval sources l = .ok v → ∃ holds, v = .bool holds)
    (r : Expr) : eval sources (.boolean .and l r)
      = match eval sources l with
        | .ok (.bool true) => eval sources r
        | outcome => outcome := by
  rw [eval]
  cases hl : eval sources l with
  | error error => rfl
  | ok v =>
    obtain ⟨holds, rfl⟩ := h v hl
    cases holds with
    | false => rfl
    | true => rfl

/-- A conjunction of comparisons has the value of the chain. By induction on the operands after
the second one. -/
theorem eval_conjunction (rest : List (CompareOp × Expr)) :
    eval sources (conjunction first op second rest)
      = eval sources (.chained first ((op, second) :: rest)) := by
  induction rest generalizing first op second with
  | nil => rfl
  | cons link rest ih =>
    obtain ⟨next, third⟩ := link
    have hflag (v : Value) (hv : eval sources (.chained first [(op, second)]) = .ok v) :
        ∃ holds, v = .bool holds := by
      simp only [eval] at hv
      split at hv
      · cases hv
      · exact exists_of_evalLinks hv
    show eval sources (.boolean .and _ (conjunction second next third rest)) = _
    rw [eval_and hflag, eval_chained_cons ((next, third) :: rest), ih]

end

/-- A chain of comparisons is the conjunction of its links: both have the same outcome, a value or
an error. And both need the same operands: after links that do not all hold, the outcome is decided
whatever links follow; after links that hold, both fail with the next operand. -/
theorem chained_eq_conjunction (sources : Sources) (first second : Expr) (op : CompareOp)
    (rest : List (CompareOp × Expr)) :
    let chain (links : List (CompareOp × Expr)) :=
      eval sources (.chained first ((op, second) :: links))
    let joined (links : List (CompareOp × Expr)) :=
      eval sources (conjunction first op second links)
    chain rest = joined rest ∧
    (chain rest ≠ .ok (.bool true) → ∀ others,
      chain (rest ++ others) = chain rest ∧ joined (rest ++ others) = joined rest) ∧
    (chain rest = .ok (.bool true) → ∀ next third others error,
      eval sources third = .error error →
        chain (rest ++ (next, third) :: others) = .error error ∧
        joined (rest ++ (next, third) :: others) = .error error) := by
  intro chain joined
  have hjoined (links : List (CompareOp × Expr)) : joined links = chain links :=
    eval_conjunction links
  constructor
  · exact (hjoined rest).symm
  constructor
  · intro hstops others
    have hchain : chain (rest ++ others) = chain rest := eval_chained_stops hstops others
    rw [hjoined, hjoined]
    exact ⟨hchain, hchain⟩
  · intro hholds next third others error herror
    have hchain : chain (rest ++ (next, third) :: others) = .error error :=
      eval_chained_fails hholds herror next others
    rw [hjoined]
    exact ⟨hchain, hchain⟩

/-- The divisor in the third operand is zero: it goes unnoticed after a link that fails, and shows
after one that holds. -/
theorem chained_eq_conjunction_zero_divisor :
    let whole (i : Int) : Expr := .literal (.int i)
    let broken : Expr := .binary .floorDiv (whole 1) (whole 0)
    eval [] (.chained (whole 2) [(.lt, whole 1)]) ≠ .ok (.bool true) ∧
    eval [] (conjunction (whole 2) .lt (whole 1) [(.le, broken)]) = .ok (.bool false) ∧
    eval [] (.chained (whole 0) [(.lt, whole 1)]) = .ok (.bool true) ∧
    eval [] broken = .error (.zeroDivision .wholeDivision) ∧
    eval [] (conjunction (whole 0) .lt (whole 1) [(.le, broken)])
      = .error (.zeroDivision .wholeDivision) := by
  intro whole broken
  have hfails : eval [] (.chained (whole 2) [(.lt, whole 1)]) = .ok (.bool false) := rfl
  have hstops : eval [] (.chained (whole 2) [(.lt, whole 1)]) ≠ .ok (.bool true) := by
    rw [hfails]
    simp
  have hholds : eval [] (.chained (whole 0) [(.lt, whole 1)]) = .ok (.bool true) := rfl
  have hbroken : eval [] broken = .error (.zeroDivision .wholeDivision) := rfl
  have hskipped := chained_eq_conjunction [] (whole 2) (whole 1) .lt []
  have hreached := chained_eq_conjunction [] (whole 0) (whole 1) .lt []
  refine ⟨hstops, ?_, hholds, hbroken, ?_⟩
  · exact (hskipped.2.1 hstops [(.le, broken)]).2.trans hfails
  · exact (hreached.2.2 hholds .le broken [] _ hbroken).2

end RowSignals.Expr
