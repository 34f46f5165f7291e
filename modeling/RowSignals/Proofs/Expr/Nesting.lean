import RowSignals.Proofs.Expr.Parsing
import RowSignals.Proofs.Results

/-!
# How deep expressions nest

The limit on nesting counts the links of a chain while their right operands are read. The tree of
a chain nests the other way round: every link stands above all that comes before it. So the
limit bounds how often a path through the tree goes to the right, while on the left chains of
several levels can stand on top of each other.

* `nesting`: the operators on a path from the root of a tree to a leaf.
* `Derives.rightward_le`: a phrase of so many levels has no more operators than that on a path,
  steps to the left aside.
* `Phrase.capacity`, `Derives.nesting_le`: how many operators such a phrase can have on a path.
* `nesting_of_parse`: the bounds for every text that is accepted.
-/

namespace RowSignals.Expr

mutual

/-- The most operators on a path from the root of a tree to a leaf, comparisons, conditionals and
calls aside. An operator with two operands counts `left` where the path goes to the left. -/
def nesting (left : Nat) : Expr → Nat
  | .literal _ => 0
  | .name _ => 0
  | .source _ => 0
  | .unary _ e => nesting left e + 1
  | .binary _ l r => max (nesting left l + left) (nesting left r + 1)
  | .chained first links => max (nesting left first) (linkNesting left links)
  | .boolean _ l r => max (nesting left l + left) (nesting left r + 1)
  | .conditional body test orelse =>
    max (nesting left body) (max (nesting left test) (nesting left orelse))
  | .call _ args => argNesting left args

/-- The most operators on a path through an operand of a chain of comparisons. -/
def linkNesting (left : Nat) : List (CompareOp × Expr) → Nat
  | [] => 0
  | (_, e) :: links => max (nesting left e) (linkNesting left links)

/-- The most operators on a path through an argument. -/
def argNesting (left : Nat) : List Expr → Nat
  | [] => 0
  | e :: args => max (nesting left e) (argNesting left args)

end

/-- An operation of a chain nests its left side by the weight of steps to the left, and its
right side by one. -/
theorem Joins.nesting {c : Chain} {t : TokenKind} {join : Expr → Expr → Expr}
    (h : Joins c t join) (left : Nat) (l r : Expr) : Expr.nesting left (join l r)
      = max (Expr.nesting left l + left) (Expr.nesting left r + 1) := by
  cases h <;> rw [Expr.nesting]

/-! ## Steps to the right -/

mutual

/-- A phrase nests as many levels as a path through its tree has operators, steps to the left
aside. -/
theorem Derives.rightward_le {p : Phrase} {n : Nat} {ts rest : List TokenKind} {e : Expr} :
    Derives p n ts e rest → nesting 0 e ≤ n
  | .plain h => Nat.le_succ_of_le h.rightward_le
  | .conditional hb ht ho => by
    have hbody := hb.rightward_le
    have htest := ht.rightward_le
    have horelse := ho.rightward_le
    rw [nesting]
    omega
  | .chain hf hl => by
    have hfirst := Derives.rightward_le hf
    have hlinks := Links.rightward_le hl
    omega
  | .not h => Nat.succ_le_succ h.rightward_le
  | .comparison h => h.rightward_le
  | .single h => h.rightward_le
  | .compare hf hl => by
    have hfirst := hf.rightward_le
    have hlinks := hl.rightward_le
    rw [nesting]
    omega
  | .sign _ h => Nat.succ_le_succ h.rightward_le
  | .unsigned h => h.rightward_le
  | .base h => h.rightward_le
  | .pow hb he => by
    have hbase := hb.rightward_le
    have hexponent := he.rightward_le
    rw [nesting]
    omega
  | .constant _ => Nat.le_refl 0
  | .name _ => Nat.le_refl 0
  | .lookup => Nat.le_refl 0
  | .call ha _ => ha.rightward_le
  | .parens h => h.rightward_le

/-- Links that were read with some levels add no more steps to the right than these. -/
theorem Links.rightward_le {c : Chain} {n : Nat} {left e : Expr} {ts rest : List TokenKind} :
    Links c n left ts e rest → nesting 0 e ≤ max (nesting 0 left) n
  | .done => Nat.le_max_left _ _
  | .link hj hr hl => by
    have hright := hr.rightward_le
    have hlinks := hl.rightward_le
    rw [hj.nesting] at hlinks
    omega

/-- The operands of a comparison have no more steps to the right than levels. -/
theorem Comparisons.rightward_le {n : Nat} {ts rest : List TokenKind}
    {links : List (CompareOp × Expr)} : Comparisons n ts links rest → linkNesting 0 links ≤ n
  | .done => Nat.le_refl 0
  | .link _ he hl => by
    have hoperand := he.rightward_le
    have hlinks := hl.rightward_le
    rw [linkNesting]
    omega

theorem Arguments.rightward_le {n : Nat} {ts rest : List TokenKind} {args : List Expr} :
    Arguments n ts args rest → argNesting 0 args ≤ n
  | .done => Nat.le_refl 0
  | .last he => by
    have harg := he.rightward_le
    rw [argNesting, argNesting]
    omega
  | .more he ha => by
    have harg := he.rightward_le
    have hargs := ha.rightward_le
    rw [argNesting]
    omega

end

/-! ## All steps

A level that is left for a phrase can be spent once on each of the four chains that stand on top
of each other, before the first operand spends it on parentheses. -/

/-- How many operators an expression of so many levels can have on a path. -/
def enclosed : Nat → Nat
  | 0 => 0
  | n + 1 => enclosed n + min n 1 + 4 * n

theorem enclosed_mono {n m : Nat} (h : n ≤ m) : enclosed n ≤ enclosed m := by
  induction h with
  | refl => exact Nat.le_refl _
  | step _ ih =>
    rw [enclosed]
    omega

/-- How many operators a phrase of so many levels can have on a path. -/
def Phrase.capacity (p : Phrase) (n : Nat) : Nat :=
  match p with
  | .expression | .primary => enclosed n
  | .factor | .power => enclosed n + min n 1
  | .chain .term => enclosed n + min n 1 + n
  | .chain .arith | .comparison | .negation => enclosed n + min n 1 + 2 * n
  | .chain .and => enclosed n + min n 1 + 3 * n
  | .chain .or => enclosed n + min n 1 + 4 * n

theorem Phrase.capacity_mono (p : Phrase) {n m : Nat} (h : n ≤ m) :
    p.capacity n ≤ p.capacity m := by
  have hmono := enclosed_mono h
  unfold Phrase.capacity
  split <;> omega

/-- A chain has room for one link for each level, on top of what its operands have. -/
theorem Phrase.capacity_chain (c : Chain) (n : Nat) :
    (Phrase.chain c).capacity n = (Phrase.operand c).capacity n + n := by
  cases c
  all_goals simp only [Phrase.operand, Phrase.capacity]
  all_goals omega

mutual

/-- A phrase has no more operators on a path than its levels have room for. -/
theorem Derives.nesting_le {p : Phrase} {n : Nat} {ts rest : List TokenKind} {e : Expr} :
    Derives p n ts e rest → nesting 1 e ≤ p.capacity n
  | .plain h => h.nesting_le
  | .conditional (n := n) (m := m) (k := k) hb ht ho => by
    have hbody := hb.nesting_le
    have htest := ht.nesting_le
    have horelse := ho.nesting_le
    have hn := (Phrase.chain .or).capacity_mono (Nat.le_max_left n (max m k))
    have hm := (Phrase.chain .or).capacity_mono
      (Nat.le_trans (Nat.le_max_left m k) (Nat.le_max_right n (max m k)))
    have hk := Phrase.expression.capacity_mono
      (Nat.le_succ_of_le (Nat.le_trans (Nat.le_max_right m k) (Nat.le_max_right n (max m k))))
    have hsucc (n : Nat) : Phrase.expression.capacity (n + 1) = (Phrase.chain .or).capacity n :=
      rfl
    -- the body and the test spend the level of the expression, the `else` part spends its own
    rw [nesting]
    rw [hsucc] at hk ⊢
    omega
  | .chain (c := c) (n := n) (m := m) hf hl => by
    have hfirst := Derives.nesting_le hf
    have hlinks := Links.nesting_le hl
    have hn := (Phrase.operand c).capacity_mono (Nat.le_max_left n m)
    have hm := (Phrase.operand c).capacity_mono (Nat.le_max_right n m)
    rw [Phrase.capacity_chain]
    omega
  | .not h => by
    have hoperand := h.nesting_le
    simp only [nesting, Phrase.capacity, enclosed] at hoperand ⊢
    omega
  | .comparison h => h.nesting_le
  | .single h => h.nesting_le
  | .compare (n := n) (m := m) hf hl => by
    have hfirst := hf.nesting_le
    have hlinks := hl.nesting_le
    have hn := (Phrase.chain .arith).capacity_mono (Nat.le_max_left n m)
    have hm := (Phrase.chain .arith).capacity_mono (Nat.le_max_right n m)
    rw [nesting]
    exact Nat.max_le.mpr ⟨Nat.le_trans hfirst hn, Nat.le_trans hlinks hm⟩
  | .sign _ h => by
    have hoperand := h.nesting_le
    simp only [nesting, Phrase.capacity, enclosed] at hoperand ⊢
    omega
  | .unsigned h => h.nesting_le
  | .base h => Nat.le_trans h.nesting_le (Nat.le_add_right _ _)
  | .pow (n := n) (m := m) hb he => by
    have hbase := hb.nesting_le
    have hexponent := he.nesting_le
    have hn := enclosed_mono (Nat.le_max_left n (m + 1))
    have hm := enclosed_mono (Nat.le_max_right n (m + 1))
    simp only [nesting, Phrase.capacity, enclosed] at *
    omega
  | .constant _ => Nat.zero_le _
  | .name _ => Nat.zero_le _
  | .lookup => Nat.zero_le _
  | .call ha _ => ha.nesting_le
  | .parens h => h.nesting_le

/-- Each link adds one step to the left, and takes a level of its own while it is read. -/
theorem Links.nesting_le {c : Chain} {n : Nat} {left e : Expr} {ts rest : List TokenKind} :
    Links c n left ts e rest →
      nesting 1 e ≤ max (nesting 1 left) ((Phrase.operand c).capacity n) + n
  | .done => Nat.le_max_left _ _
  | .link (n := n) (m := m) hj hr hl => by
    have hright := hr.nesting_le
    have hlinks := hl.nesting_le
    -- the links after this one have the operand on their left, below one link more
    have hn : (Phrase.operand c).capacity n ≤ (Phrase.operand c).capacity (max n m + 1) :=
      Phrase.capacity_mono _ (by omega)
    have hm : (Phrase.operand c).capacity m ≤ (Phrase.operand c).capacity (max n m + 1) :=
      Phrase.capacity_mono _ (by omega)
    rw [hj.nesting] at hlinks
    omega

/-- The operands of a comparison nest no deeper than a sum. -/
theorem Comparisons.nesting_le {n : Nat} {ts rest : List TokenKind}
    {links : List (CompareOp × Expr)} :
    Comparisons n ts links rest → linkNesting 1 links ≤ (Phrase.chain .arith).capacity n
  | .done => Nat.zero_le _
  | .link (n := n) (m := m) _ he hl => by
    have hoperand := he.nesting_le
    have hlinks := hl.nesting_le
    have hn := (Phrase.chain .arith).capacity_mono (Nat.le_max_left n m)
    have hm := (Phrase.chain .arith).capacity_mono (Nat.le_max_right n m)
    rw [linkNesting]
    exact Nat.max_le.mpr ⟨Nat.le_trans hoperand hn, Nat.le_trans hlinks hm⟩

/-- The arguments of a call nest no deeper than what parentheses enclose. -/
theorem Arguments.nesting_le {n : Nat} {ts rest : List TokenKind} {args : List Expr} :
    Arguments n ts args rest → argNesting 1 args ≤ enclosed n
  | .done => Nat.zero_le _
  | .last he => by
    have harg := he.nesting_le
    rw [argNesting, argNesting, Nat.max_zero]
    exact harg
  | .more (n := n) (m := m) he ha => by
    have harg := he.nesting_le
    have hargs := ha.nesting_le
    have hn := enclosed_mono (Nat.le_max_left n m)
    have hm := enclosed_mono (Nat.le_max_right n m)
    rw [argNesting]
    exact Nat.max_le.mpr ⟨Nat.le_trans harg hn, Nat.le_trans hargs hm⟩

end

/-! ## Texts -/

/-- On any path through the tree of a text that is accepted, at most 128 operators are not passed
on the left, and at most 32639 operators are passed in all. -/
theorem nesting_of_parse {source : String} {e : Expr} (h : parse source = .ok e) :
    nesting 0 e ≤ maxDepth ∧ nesting 1 e ≤ 32639 := by
  obtain ⟨n, hn, hderives⟩ := parseTokens_eq_ok_iff.mp h
  refine ⟨Nat.le_trans hderives.rightward_le hn, ?_⟩
  have hroom : enclosed maxDepth = 32639 := by decide +kernel
  calc nesting 1 e ≤ enclosed n := hderives.nesting_le
    _ ≤ enclosed maxDepth := enclosed_mono hn
    _ = 32639 := hroom

/-- A chain on the left of another one, where a path has more operators than steps to the right. -/
theorem nesting_of_parse_difference_in_product :
    let e : Expr := .binary .mul
      (.binary .sub (.binary .sub (.literal (.int 1)) (.literal (.int 2))) (.name "x"))
      (.unary .neg (.name "y"))
    parse "(1 - 2 - x) * -y" = .ok e ∧ nesting 0 e ≤ maxDepth ∧ nesting 1 e ≤ 32639 := by
  intro e
  have hparse : parse "(1 - 2 - x) * -y" = .ok e := by cbv
  exact ⟨hparse, nesting_of_parse hparse⟩

/-- With 127 signs in front of the first of three summands, neither the signs nor the links nest
too deeply by themselves. The tree has 129 operators on the path to the first summand. -/
theorem nesting_signs_in_sum :
    let source := String.ofList (List.replicate 127 '-' ++ "1+1+1".toList)
    ∃ e, parse source = .ok e ∧ nesting 1 e = maxDepth + 1 := by
  intro source
  have hnesting : (parse source).toOption.map (nesting 1) = some 129 := by decide +kernel
  exact exists_of_toOption_map hnesting

end RowSignals.Expr
