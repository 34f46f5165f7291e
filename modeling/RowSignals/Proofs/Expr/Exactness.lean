import Mathlib
import RowSignals.Proofs.Expr.Subterms

/-!
# Exact whole numbers

Whole numbers are computed in 64 bits, with a division that cuts towards zero and is corrected
afterwards, and with floats wherever a result does not fit. What comes out as a whole number is
nevertheless exact.

* `rounded_down`: the corrected division rounds down.
* `wholeOp_eq`: an operator has its exact result whenever that fits.
* `Exact`: the exact value of an expression; `StaysWhole`: every part of it has one within 64 bits.
* `DividesByZero`: the first thing that goes wrong is a whole number divided by zero.
* `eval_whole`: evaluation computes exact values and nothing else.
-/

namespace RowSignals.Expr

open Number (inInt64 inInt64_iff int64Min)

/-! ## Division rounded down -/

section
variable {x y : Int}

theorem inInt64_iff_bounds {z : Int} : inInt64 z = true ↔ -2 ^ 63 ≤ z ∧ z < 2 ^ 63 := by
  have hmin : int64Min = -2 ^ 63 := rfl
  have hmax : Number.int64Max = 2 ^ 63 - 1 := rfl
  rw [inInt64_iff, hmin, hmax]
  omega

/-- The division that cuts off went up where the remainder and the divisor differ in sign. -/
theorem wentUp_iff {r : Int} : wentUp r y = true ↔ r < 0 ∧ 0 ≤ y ∨ 0 < r ∧ y < 0 := by
  simp only [wentUp, Bool.and_eq_true, bne_iff_ne, ne_eq, decide_eq_decide]
  omega

theorem natAbs_tmod_lt (hy : y ≠ 0) : (Int.tmod x y).natAbs < y.natAbs := by
  rw [Int.natAbs_tmod]
  exact Nat.mod_lt _ (Int.natAbs_pos.mpr hy)

/-- Quotient and remainder are those of the division rounded down, once they are corrected. -/
theorem rounded_down (hy : y ≠ 0) :
    Int.fdiv x y = (if wentUp (Int.tmod x y) y then Int.tdiv x y - 1 else Int.tdiv x y) ∧
    Int.fmod x y = if wentUp (Int.tmod x y) y then Int.tmod x y + y else Int.tmod x y := by
  have hsplit := Int.mul_tdiv_add_tmod x y
  have hsmall := natAbs_tmod_lt (x := x) hy
  generalize Int.tdiv x y = q at *
  generalize Int.tmod x y = r at *
  -- one less in the quotient is one divisor more in the remainder
  have hnext : r + y + y * (q - 1) = x := by
    rw [Int.mul_sub, Int.mul_one]
    omega
  rcases Int.lt_or_gt_of_ne hy with hneg | hpos
  · rw [Int.fdiv_fmod_unique' hneg]
    split
    · rename_i hup
      rw [wentUp_iff] at hup
      omega
    · rename_i hup
      rw [wentUp_iff] at hup
      omega
  · rw [Int.fdiv_fmod_unique hpos]
    split
    · rename_i hup
      rw [wentUp_iff] at hup
      omega
    · rename_i hup
      rw [wentUp_iff] at hup
      omega

/-- A division that leaves something at least halves its dividend. -/
theorem natAbs_tdiv_le (hrest : Int.tmod x y ≠ 0) : 2 * (Int.tdiv x y).natAbs ≤ x.natAbs := by
  by_cases hy : y = 0
  · rw [hy, Int.tdiv_zero]
    exact Nat.zero_le _
  have htwo : 2 ≤ y.natAbs := by
    have hsmall := natAbs_tmod_lt (x := x) hy
    omega
  calc 2 * (Int.tdiv x y).natAbs = 2 * (x.natAbs / y.natAbs) := by rw [Int.natAbs_tdiv]; rfl
    _ ≤ y.natAbs * (x.natAbs / y.natAbs) := Nat.mul_le_mul_right _ htwo
    _ ≤ x.natAbs := Nat.mul_div_le ..

/-- A quotient that leaves something is far from the bounds. -/
theorem fits_of_tmod_ne_zero (hx : inInt64 x = true) (hrest : Int.tmod x y ≠ 0) :
    inInt64 (Int.tdiv x y) = true ∧ inInt64 (Int.tdiv x y - 1) = true := by
  have hhalf := natAbs_tdiv_le hrest
  rw [inInt64_iff_bounds] at hx
  rw [inInt64_iff_bounds, inInt64_iff_bounds]
  omega

/-- The quotient rounded down fits where the one cut off does. -/
theorem inInt64_fdiv (hx : inInt64 x = true) (hy : y ≠ 0) :
    inInt64 (Int.fdiv x y) = inInt64 (Int.tdiv x y) := by
  rw [(rounded_down hy).1]
  split
  · rename_i hup
    rw [wentUp_iff] at hup
    obtain ⟨hquotient, hless⟩ := fits_of_tmod_ne_zero hx (by omega : Int.tmod x y ≠ 0)
    rw [hquotient, hless]
  · rfl

theorem inInt64_fmod (hy : y ≠ 0) (hfits : inInt64 y = true) : inInt64 (Int.fmod x y) = true := by
  rw [inInt64_iff_bounds] at hfits ⊢
  have hsmall := natAbs_tmod_lt (x := x) hy
  rw [(rounded_down hy).2]
  split
  · rename_i hup
    rw [wentUp_iff] at hup
    omega
  · omega

/-! ## Operators -/

theorem exists_of_map_float {result : Except EvalError Float} {v : Value}
    (h : result.map Value.float = .ok v) : ∃ f, v = .float f := by
  cases result with
  | error error => cases h
  | ok f =>
    cases h
    exact ⟨f, rfl⟩

/-- The operators that have exact results. -/
def IsExact : BinaryOp → Prop
  | .add | .sub | .mul | .floorDiv | .mod => True
  | .div | .pow => False

/-- The exact result of an operator, if there is one: division rounds down, and its remainder has
the sign of the divisor. -/
def exactValue? (op : BinaryOp) (x y : Int) : Option Int :=
  match op with
  | .add => some (x + y)
  | .sub => some (x - y)
  | .mul => some (x * y)
  | .floorDiv => if y = 0 then none else some (Int.fdiv x y)
  | .mod => if y = 0 then none else some (Int.fmod x y)
  | .div | .pow => none

/-- An operator has its exact result if that fits 64 bits, and the result of the floats if it does
not. Without an exact result the divisor is zero. -/
theorem wholeOp_eq {op : BinaryOp} (hop : IsExact op) (hx : inInt64 x = true)
    (hy : inInt64 y = true) : wholeOp op x y
      = match exactValue? op x y with
        | some z => wholeOr z (floatOp op (Number.ofInt x) (Number.ofInt y))
        | none => .error (.zeroDivision .wholeDivision) := by
  cases op with
  | add | sub | mul => rfl
  | div | pow => cases hop
  | floorDiv =>
    by_cases hzero : y = 0
    · simp only [wholeOp, exactValue?, if_pos hzero]
    · simp only [wholeOp, exactValue?, if_neg hzero, wholeOr, inInt64_fdiv hx hzero, quotient?,
        remainder?]
      by_cases hfits : inInt64 (Int.tdiv x y) = true
      · simp only [if_pos hfits, Option.map_some, (rounded_down hzero).1]
      · simp only [if_neg hfits, Option.map_none]
  | mod =>
    by_cases hzero : y = 0
    · simp only [wholeOp, exactValue?, if_pos hzero]
    · simp only [wholeOp, exactValue?, if_neg hzero, wholeOr, inInt64_fmod hzero hy, if_true,
        quotient?, remainder?]
      by_cases hfits : inInt64 (Int.tdiv x y) = true
      · simp only [if_pos hfits, Option.map_some, Option.getD_some, (rounded_down hzero).2]
      · -- the quotient is out of the bounds only if nothing is left
        have hrest : Int.tmod x y = 0 := by
          by_contra hrest
          exact hfits (fits_of_tmod_ne_zero hx hrest).1
        have hup : ¬ wentUp 0 y = true := by
          rw [wentUp_iff]
          omega
        rw [(rounded_down hzero).2, hrest]
        simp only [if_neg hfits, Option.map_none, Option.getD_none, if_neg hup]

/-- Division and remainder have no exact result for a zero divisor. -/
theorem exactValue?_zero {op : BinaryOp} (hop : op = .floorDiv ∨ op = .mod) (x : Int) :
    exactValue? op x 0 = none := by
  rcases hop with rfl | rfl
  · rfl
  · rfl

theorem isExact_of_exactValue? {op : BinaryOp} {z : Int} (h : exactValue? op x y = some z) :
    IsExact op := by
  cases op with
  | div | pow => cases h
  | _ => trivial

/-- What an operator makes of whole numbers is its exact result, or a float. -/
theorem wholeOp_value {op : BinaryOp} (hop : IsExact op) (hx : inInt64 x = true)
    (hy : inInt64 y = true) {v : Value} (h : wholeOp op x y = .ok v) :
    (∃ z, v = .int z ∧ exactValue? op x y = some z ∧ inInt64 z = true) ∨ ∃ f, v = .float f := by
  rw [wholeOp_eq hop hx hy] at h
  split at h
  · rename_i z hz
    unfold wholeOr at h
    split at h
    · rename_i hfits
      cases h
      exact .inl ⟨z, rfl, hz, hfits⟩
    · exact .inr (exists_of_map_float h)
  · cases h

end

/-! ## Exact values -/

/-- `IsWhole sources e`: the expression is made of whole numbers of 64 bits, literals or sources,
with signs, `abs` and the operators that have exact results. -/
inductive IsWhole (sources : Sources) : Expr → Prop
  | literal {i : Int} : inInt64 i = true → IsWhole sources (.literal (.int i))
  | name {n : String} {i : Int} : sources.find? n = some (.int i) → inInt64 i = true →
    IsWhole sources (.name n)
  | source {n : String} {i : Int} : sources.find? n = some (.int i) → inInt64 i = true →
    IsWhole sources (.source n)
  | neg {e : Expr} : IsWhole sources e → IsWhole sources (.unary .neg e)
  | pos {e : Expr} : IsWhole sources e → IsWhole sources (.unary .pos e)
  | abs {e : Expr} : IsWhole sources e → IsWhole sources (.call .abs [e])
  | binary {op : BinaryOp} {l r : Expr} : IsExact op → IsWhole sources l → IsWhole sources r →
    IsWhole sources (.binary op l r)

/-- `Exact sources e z`: the exact value of the expression is `z`. -/
inductive Exact (sources : Sources) : Expr → Int → Prop
  | literal {i : Int} : Exact sources (.literal (.int i)) i
  | name {n : String} {i : Int} : sources.find? n = some (.int i) → Exact sources (.name n) i
  | source {n : String} {i : Int} : sources.find? n = some (.int i) → Exact sources (.source n) i
  | neg {e : Expr} {z : Int} : Exact sources e z → Exact sources (.unary .neg e) (-z)
  | pos {e : Expr} {z : Int} : Exact sources e z → Exact sources (.unary .pos e) z
  | abs {e : Expr} {z : Int} : Exact sources e z → Exact sources (.call .abs [e]) z.natAbs
  | binary {op : BinaryOp} {l r : Expr} {x y z : Int} : Exact sources l x → Exact sources r y →
    exactValue? op x y = some z → Exact sources (.binary op l r) z

/-- Every part of an expression has an exact value within 64 bits. -/
def StaysWhole (sources : Sources) (e : Expr) : Prop :=
  ∀ m, Part m e → ∃ z, Exact sources m z ∧ inInt64 z = true

/-- `DividesByZero sources e`: from left to right, the first thing that goes wrong in `e` is a
division or a remainder of whole numbers whose divisor is zero. -/
inductive DividesByZero (sources : Sources) : Expr → Prop
  | divisor {op : BinaryOp} {l r : Expr} : op = .floorDiv ∨ op = .mod → StaysWhole sources l →
    StaysWhole sources r → Exact sources r 0 → DividesByZero sources (.binary op l r)
  | left {op : BinaryOp} {l r : Expr} : DividesByZero sources l →
    DividesByZero sources (.binary op l r)
  | right {op : BinaryOp} {l r : Expr} : StaysWhole sources l → DividesByZero sources r →
    DividesByZero sources (.binary op l r)
  | operand {op : UnaryOp} {e : Expr} : DividesByZero sources e →
    DividesByZero sources (.unary op e)
  | argument {e : Expr} : DividesByZero sources e → DividesByZero sources (.call .abs [e])

section
variable {sources : Sources}

/-- An expression has one exact value at most. -/
theorem Exact.unique {e : Expr} {y z : Int} (hy : Exact sources e y) (hz : Exact sources e z) :
    y = z := by
  -- The form of the expression fixes the last rule of both derivations.
  induction hy generalizing z with
  | literal =>
    cases hz
    rfl
  | name hn =>
    cases hz with
    | name hm =>
      cases hn.symm.trans hm
      rfl
  | source hn =>
    cases hz with
    | source hm =>
      cases hn.symm.trans hm
      rfl
  | neg _ ih =>
    cases hz with
    | neg hz => rw [ih hz]
  | pos _ ih =>
    cases hz with
    | pos hz => rw [ih hz]
  | abs _ ih =>
    cases hz with
    | abs hz => rw [ih hz]
  | binary _ _ hop ihl ihr =>
    cases hz with
    | binary hl hr hz =>
      rw [ihl hl, ihr hr] at hop
      exact Option.some.inj (hop.symm.trans hz)

/-! ### Parts that fit -/

section
variable {e l r : Expr} {z : Int}

theorem staysWhole_literal {i : Int} (hi : inInt64 i = true) :
    StaysWhole sources (.literal (.int i)) := by
  intro m hm
  cases hm with
  | self => exact ⟨i, .literal, hi⟩

theorem staysWhole_name {n : String} {i : Int} (hn : sources.find? n = some (.int i))
    (hi : inInt64 i = true) : StaysWhole sources (.name n) := by
  intro m hm
  cases hm with
  | self => exact ⟨i, .name hn, hi⟩

theorem staysWhole_source {n : String} {i : Int} (hn : sources.find? n = some (.int i))
    (hi : inInt64 i = true) : StaysWhole sources (.source n) := by
  intro m hm
  cases hm with
  | self => exact ⟨i, .source hn, hi⟩

/-- A sign in front of what stays whole does, where the result fits. -/
theorem StaysWhole.unary {op : UnaryOp} (he : StaysWhole sources e)
    (hz : Exact sources (.unary op e) z) (hfits : inInt64 z = true) :
    StaysWhole sources (.unary op e) := by
  intro m hm
  cases hm with
  | self => exact ⟨z, hz, hfits⟩
  | operand hm => exact he m hm

theorem StaysWhole.abs (he : StaysWhole sources e) (hz : Exact sources (.call .abs [e]) z)
    (hfits : inInt64 z = true) : StaysWhole sources (.call .abs [e]) := by
  intro m hm
  cases hm with
  | self => exact ⟨z, hz, hfits⟩
  | arg harg hm =>
    obtain rfl := List.mem_singleton.mp harg
    exact he m hm

theorem StaysWhole.binary {op : BinaryOp} (hl : StaysWhole sources l) (hr : StaysWhole sources r)
    (hz : Exact sources (.binary op l r) z) (hfits : inInt64 z = true) :
    StaysWhole sources (.binary op l r) := by
  intro m hm
  cases hm with
  | self => exact ⟨z, hz, hfits⟩
  | left hm => exact hl m hm
  | right hm => exact hr m hm

theorem StaysWhole.inInt64 (h : StaysWhole sources e) (hz : Exact sources e z) :
    inInt64 z = true := by
  obtain ⟨y, hy, hfits⟩ := h e .self
  rwa [hz.unique hy]

end

/-! ## Evaluation -/

/-- A size is computed from the value of its argument. -/
theorem eval_abs (e : Expr) : eval sources (.call .abs [e])
    = match eval sources e with
      | .error error => .error error
      | .ok v => absolute v := by
  simp only [eval, evalArgs]
  cases eval sources e with
  | error error => rfl
  | ok v => rfl

/-- A value of an expression comes from a value of its operand. -/
theorem exists_of_eval_unary {op : UnaryOp} {e : Expr} {v : Value}
    (h : eval sources (.unary op e) = .ok v) :
    ∃ operand, eval sources e = .ok operand ∧ unaryOp op operand = .ok v := by
  rw [eval] at h
  split at h
  · cases h
  · exact ⟨_, by assumption, h⟩

theorem exists_of_eval_abs {e : Expr} {v : Value} (h : eval sources (.call .abs [e]) = .ok v) :
    ∃ argument, eval sources e = .ok argument ∧ absolute argument = .ok v := by
  rw [eval_abs] at h
  split at h
  · cases h
  · exact ⟨_, by assumption, h⟩

theorem exists_of_eval_binary {op : BinaryOp} {l r : Expr} {v : Value}
    (h : eval sources (.binary op l r) = .ok v) :
    ∃ left right, eval sources l = .ok left ∧ eval sources r = .ok right ∧
      binaryOp op left right = .ok v := by
  rw [eval] at h
  split at h
  · cases h
  · split at h
    · cases h
    · exact ⟨_, _, by assumption, by assumption, h⟩

/-- Between whole numbers the operation on whole numbers is meant. -/
theorem binaryOp_int (op : BinaryOp) (x y : Int) :
    binaryOp op (.int x) (.int y) = wholeOp op x y := by
  cases op with
  | _ => rfl

/-- Numbers are not joined, so that an operator on them is arithmetic. -/
theorem binaryOp_number {op : BinaryOp} {left right : Value} {x : Num}
    (hleft : Num.of? left = some x) : binaryOp op left right = numberOp op left right := by
  unfold binaryOp
  split
  · cases hleft
  · cases hleft
  · rfl

/-- With a float among its operands, an operator makes a float. -/
theorem binaryOp_real {op : BinaryOp} {left right v : Value} {x y : Num}
    (hleft : Num.of? left = some x) (hright : Num.of? right = some y)
    (hreal : (∃ f, x = .real f) ∨ ∃ f, y = .real f) (h : binaryOp op left right = .ok v) :
    ∃ f, v = .float f := by
  rw [binaryOp_number hleft, numberOp, hleft, hright] at h
  rcases hreal with ⟨f, rfl⟩ | ⟨f, rfl⟩
  · exact exists_of_map_float h
  · cases x with
    | whole i => exact exists_of_map_float h
    | real g => exact exists_of_map_float h

theorem ofWhole_of_fits {z : Int} (h : inInt64 z = true) : Value.ofWhole z = .int z :=
  if_pos h

/-- A whole number as a value is that number, or a float. -/
theorem ofWhole_cases (z : Int) :
    inInt64 z = true ∧ Value.ofWhole z = .int z ∨ ∃ f, Value.ofWhole z = .float f := by
  by_cases hfits : inInt64 z = true
  · exact .inl ⟨hfits, if_pos hfits⟩
  · exact .inr ⟨_, if_neg hfits⟩

/-- While everything fits, evaluation computes exact values. -/
theorem eval_of_staysWhole {e : Expr} {z : Int} (hz : Exact sources e z)
    (hfits : StaysWhole sources e) : eval sources e = .ok (.int z) := by
  have hwhole := hfits.inInt64 hz
  -- The expression is a part of itself, so its own value fits; those of its operands fit as
  -- parts.
  induction hz with
  | literal => rfl
  | name hn => rw [eval, hn]
  | source hn => rw [eval, hn]
  | @neg e z he ih =>
    have hoperand : StaysWhole sources e := fun m hm => hfits m hm.operand
    rw [eval, ih hoperand (hoperand.inInt64 he)]
    show Except.ok (Value.ofWhole (-z)) = _
    rw [ofWhole_of_fits hwhole]
  | @pos e z he ih =>
    have hoperand : StaysWhole sources e := fun m hm => hfits m hm.operand
    rw [eval, ih hoperand (hoperand.inInt64 he)]
    rfl
  | @abs e z he ih =>
    have hargument : StaysWhole sources e :=
      fun m hm => hfits m (.arg (List.mem_singleton_self e) hm)
    rw [eval_abs, ih hargument (hargument.inInt64 he)]
    show Except.ok (Value.ofWhole z.natAbs) = _
    rw [ofWhole_of_fits hwhole]
  | @binary op l r x y z hl hr hop ihl ihr =>
    have hleft : StaysWhole sources l := fun m hm => hfits m hm.left
    have hright : StaysWhole sources r := fun m hm => hfits m hm.right
    have hx := hleft.inInt64 hl
    have hy := hright.inInt64 hr
    rw [eval, ihl hleft hx, ihr hright hy]
    show binaryOp op (.int x) (.int y) = _
    rw [binaryOp_int, wholeOp_eq (isExact_of_exactValue? hop) hx hy, hop]
    exact if_pos hwhole

/-- The first error is that of the zero divisor. -/
theorem eval_of_dividesByZero {e : Expr} (h : DividesByZero sources e) :
    eval sources e = .error (.zeroDivision .wholeDivision) := by
  induction h with
  | @divisor op l r hop hl hr hzero =>
    obtain ⟨x, hx, hfits⟩ := hl l .self
    have hexact : IsExact op := by
      rcases hop with rfl | rfl
      · trivial
      · trivial
    rw [eval, eval_of_staysWhole hx hl, eval_of_staysWhole hzero hr]
    show binaryOp op (.int x) (.int 0) = _
    rw [binaryOp_int, wholeOp_eq hexact hfits (hr.inInt64 hzero), exactValue?_zero hop]
  | left _ ih => rw [eval, ih]
  | right hl _ ih =>
    obtain ⟨x, hx, -⟩ := hl _ .self
    rw [eval, eval_of_staysWhole hx hl, ih]
  | operand _ ih => rw [eval, ih]
  | argument _ ih => rw [eval_abs, ih]

/-- A whole number is the exact value and comes from parts that all fit. Otherwise a float stands
for what did not fit, and everything made of it is a float too. -/
theorem IsWhole.value {e : Expr} (h : IsWhole sources e) {v : Value}
    (hv : eval sources e = .ok v) :
    (∃ z, v = .int z ∧ Exact sources e z ∧ StaysWhole sources e) ∨ ∃ f, v = .float f := by
  induction h generalizing v with
  | @literal i hi =>
    cases hv
    exact .inl ⟨i, rfl, .literal, staysWhole_literal hi⟩
  | @name n i hn hi =>
    rw [eval, hn] at hv
    cases hv
    exact .inl ⟨i, rfl, .name hn, staysWhole_name hn hi⟩
  | @source n i hn hi =>
    rw [eval, hn] at hv
    cases hv
    exact .inl ⟨i, rfl, .source hn, staysWhole_source hn hi⟩
  | neg _ ih =>
    obtain ⟨operand, he, hv⟩ := exists_of_eval_unary hv
    rcases ih he with ⟨z, rfl, hz, hfits⟩ | ⟨f, rfl⟩
    · -- the opposite of the least number does not fit, and then a float stands for it
      obtain rfl : Value.ofWhole (-z) = v := Except.ok.inj hv
      rcases ofWhole_cases (-z) with ⟨hin, hvalue⟩ | hfloat
      · exact .inl ⟨-z, hvalue, .neg hz, hfits.unary (.neg hz) hin⟩
      · exact .inr hfloat
    · exact .inr ⟨-f, (Except.ok.inj hv).symm⟩
  | pos _ ih =>
    obtain ⟨operand, he, hv⟩ := exists_of_eval_unary hv
    rcases ih he with ⟨z, rfl, hz, hfits⟩ | ⟨f, rfl⟩
    · obtain rfl : Value.int z = v := Except.ok.inj hv
      exact .inl ⟨z, rfl, .pos hz, hfits.unary (.pos hz) (hfits.inInt64 hz)⟩
    · exact .inr ⟨f, (Except.ok.inj hv).symm⟩
  | abs _ ih =>
    obtain ⟨argument, he, hv⟩ := exists_of_eval_abs hv
    rcases ih he with ⟨z, rfl, hz, hfits⟩ | ⟨f, rfl⟩
    · obtain rfl : Value.ofWhole z.natAbs = v := Except.ok.inj hv
      rcases ofWhole_cases z.natAbs with ⟨hin, hvalue⟩ | hfloat
      · exact .inl ⟨z.natAbs, hvalue, .abs hz, hfits.abs (.abs hz) hin⟩
      · exact .inr hfloat
    · exact .inr ⟨f.abs, (Except.ok.inj hv).symm⟩
  | @binary op l r hop _ _ ihl ihr =>
    obtain ⟨left, right, hl, hr, hv⟩ := exists_of_eval_binary hv
    rcases ihl hl with ⟨x, rfl, hx, hleft⟩ | ⟨f, rfl⟩
    · rcases ihr hr with ⟨y, rfl, hy, hright⟩ | ⟨g, rfl⟩
      · -- two whole sides: the exact result, or a float if it does not fit
        rw [binaryOp_int] at hv
        rcases wholeOp_value hop (hleft.inInt64 hx) (hright.inInt64 hy) hv with
          ⟨z, hvalue, hz, hin⟩ | hfloat
        · have hexact : Exact sources (.binary op l r) z := .binary hx hy hz
          exact .inl ⟨z, hvalue, hexact, hleft.binary hright hexact hin⟩
        · exact .inr hfloat
      · exact .inr (binaryOp_real rfl rfl (.inr ⟨g, rfl⟩) hv)
    · rcases ihr hr with ⟨y, rfl, -, -⟩ | ⟨g, rfl⟩
      · exact .inr (binaryOp_real rfl rfl (.inl ⟨f, rfl⟩) hv)
      · exact .inr (binaryOp_real rfl rfl (.inl ⟨f, rfl⟩) hv)

end

/-- Evaluation and exact values agree. Where all parts of an expression fit 64 bits, its value is
the exact one; where the first thing that goes wrong is a whole number divided by zero, that is the
error; and whatever whole number comes out is the exact value, no part having left the 64 bits. -/
theorem eval_whole {sources : Sources} {e : Expr} (h : IsWhole sources e) :
    (StaysWhole sources e → ∃ z, Exact sources e z ∧ eval sources e = .ok (.int z)) ∧
    (DividesByZero sources e → eval sources e = .error (.zeroDivision .wholeDivision)) ∧
    ∀ z, eval sources e = .ok (.int z) → Exact sources e z ∧ StaysWhole sources e := by
  refine ⟨?_, eval_of_dividesByZero, ?_⟩
  · intro hfits
    obtain ⟨z, hz, -⟩ := hfits e .self
    exact ⟨z, hz, eval_of_staysWhole hz hfits⟩
  · intro z hz
    rcases h.value hz with ⟨y, hy, hexact, hfits⟩ | ⟨f, hf⟩
    · cases hy
      exact ⟨hexact, hfits⟩
    · cases hf

/-- The smallest whole number of 64 bits leaves no remainder for -1, which then is no divisor; its
quotient does not fit, and is no whole number. -/
theorem eval_whole_smallest :
    let n : Expr := .name "n"
    let minusOne : Expr := .literal (.int (-1))
    let sources : Sources := [("n", .int int64Min)]
    eval sources (.binary .mod n minusOne) = .ok (.int 0) ∧
    eval sources (.binary .floorDiv minusOne (.binary .mod n minusOne))
      = .error (.zeroDivision .wholeDivision) ∧
    ∀ z, eval sources (.binary .floorDiv n minusOne) ≠ .ok (.int z) := by
  intro n minusOne sources
  have hn : IsWhole sources n := .name rfl (by decide)
  have hone : IsWhole sources minusOne := .literal (by decide)
  have hname : StaysWhole sources n := staysWhole_name rfl (by decide)
  have hliteral : StaysWhole sources minusOne := staysWhole_literal (by decide)
  have hrest : Exact sources (.binary .mod n minusOne) 0 := .binary (.name rfl) .literal rfl
  have hfits : StaysWhole sources (.binary .mod n minusOne) :=
    hname.binary hliteral hrest (by decide)
  have hremainder : IsWhole sources (.binary .mod n minusOne) :=
    .binary (show IsExact .mod from trivial) hn hone
  have hdivides : IsExact .floorDiv := trivial
  refine ⟨?_, ?_, ?_⟩
  · obtain ⟨z, hz, hvalue⟩ := (eval_whole hremainder).1 hfits
    rw [hvalue, hz.unique hrest]
  · refine (eval_whole (.binary hdivides hone hremainder)).2.1 ?_
    exact .divisor (.inl rfl) hliteral hfits hrest
  · intro z hz
    obtain ⟨hexact, hall⟩ := (eval_whole (.binary hdivides hn hone)).2.2 z hz
    have hquotient : Exact sources (.binary .floorDiv n minusOne) (2 ^ 63) :=
      .binary (.name rfl) .literal rfl
    have hin := hall.inInt64 hquotient
    revert hin
    decide

end RowSignals.Expr
