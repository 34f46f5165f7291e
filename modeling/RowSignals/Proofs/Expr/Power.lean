import RowSignals.Proofs.Expr.Exactness
import RowSignals.Proofs.Number.Whole

/-!
# Powers of whole numbers

A power is computed by repeated squaring, in 64 bits, and given up as soon as a product does not
fit. Every such product is itself a power with a smaller exponent, so nothing is given up that
would have fitted; only exponents of more than 32 bits are not tried at all.

* `inInt64_pow_of_le`: if a power fits, so do those with smaller exponents.
* `exactPower?`: a power if it fits 64 bits.
* `powerFrom?_eq`: repeated squaring finds it.
* `eval_pow`: when the power of two whole numbers is a whole number.
-/

namespace RowSignals.Expr

open Number (inInt64)

variable {x y : Int}

/-! ## Powers that fit -/

/-- A power fits if one with a greater exponent does. -/
theorem inInt64_pow_of_le {k m : Nat} (h : inInt64 (x ^ m) = true) (hk : k ≤ m) :
    inInt64 (x ^ k) = true := by
  have hk' := Int.natAbs_pow x k
  have hm' := Int.natAbs_pow x m
  rcases Nat.lt_or_ge 1 x.natAbs with hbig | hsmall
  · rcases hk.eq_or_lt with rfl | hlt
    · exact h
    -- the magnitude is strictly smaller, so that the one bound that only one sign has is no matter
    · have hpow : x.natAbs ^ k < x.natAbs ^ m := Nat.pow_lt_pow_right hbig hlt
      rw [inInt64_iff_bounds] at h ⊢
      omega
  · have hpow : x.natAbs ^ k ≤ 1 ^ k := Nat.pow_le_pow_left hsmall k
    rw [one_pow] at hpow
    rw [inInt64_iff_bounds]
    omega

/-- With an exponent of 64 and more, only the powers of -1, 0 and 1 fit. -/
theorem inInt64_pow_iff {k : Nat} (h : 64 ≤ k) : inInt64 (x ^ k) = true ↔ x.natAbs ≤ 1 := by
  constructor
  · intro hfits
    by_contra hbig
    have hpow : 2 ^ 64 ≤ x.natAbs ^ 64 := Nat.pow_le_pow_left (by omega) 64
    have hfits := inInt64_pow_of_le hfits h
    rw [← Int.natAbs_pow] at hpow
    rw [inInt64_iff_bounds] at hfits
    omega
  · intro hsmall
    have hpow : x.natAbs ^ k ≤ 1 ^ k := Nat.pow_le_pow_left hsmall k
    rw [one_pow, ← Int.natAbs_pow] at hpow
    rw [inInt64_iff_bounds]
    omega

/-- The power of a whole number if it fits 64 bits. -/
def exactPower? (x : Int) (k : Nat) : Option Int :=
  if inInt64 (x ^ k) then some (x ^ k) else none

/-- Without one power there is none with a greater exponent. -/
theorem exactPower?_eq_none {k m : Nat} (h : ¬ inInt64 (x ^ k) = true) (hk : k ≤ m) :
    exactPower? x m = none :=
  if_neg fun hm => h (inInt64_pow_of_le hm hk)

/-- The product of two powers of one base is the power of the sum. -/
theorem product?_pow (a b : Nat) : product? (x ^ a) (x ^ b) = exactPower? x (a + b) := by
  rw [product?, exactPower?, pow_add]

/-! ## Repeated squaring -/

/-- The exponents that are left when the lowest bit is taken off. -/
theorem exponent_even (a b half : Nat) : a + (b + b) * (half + 1) = a + b * (2 * half + 2) := by
  ring

theorem exponent_odd (a b half : Nat) :
    a + b + (b + b) * (half + 1) = a + b * (2 * half + 1 + 2) := by
  ring

/-- Repeated squaring finds a power if it fits, and nothing if it does not: no product on the way
has a greater exponent than the power itself. -/
theorem powerFrom?_eq {n : Nat} (hn : 0 < n) (a b : Nat) :
    powerFrom? (x ^ a) (x ^ b) n = exactPower? x (a + b * n) := by
  induction n using Nat.strong_induction_on generalizing a b with
  | _ n ih =>
    match n, hn with
    | 1, _ => rw [powerFrom?, product?_pow, Nat.mul_one]
    | n + 2, _ =>
      have ih (c : Nat) : powerFrom? (x ^ c) (x ^ (b + b)) (n / 2 + 1)
          = exactPower? x (c + (b + b) * (n / 2 + 1)) :=
        ih (n / 2 + 1) (by omega) (Nat.succ_pos _) c (b + b)
      rw [powerFrom?, product?_pow, product?_pow]
      -- The next square fits or not. If not, the power is at least as great and does not fit
      -- either.
      by_cases hsquare : inInt64 (x ^ (b + b)) = true
      · have hsquare : exactPower? x (b + b) = some (x ^ (b + b)) := if_pos hsquare
        rw [hsquare]
        obtain ⟨half, rfl | rfl⟩ := Nat.even_or_odd' n
        · have hhalf : 2 * half / 2 = half := by omega
          -- An even exponent: the product so far stays.
          rw [if_neg (by omega)]
          dsimp only
          rw [ih, hhalf, exponent_even]
        · have hhalf : (2 * half + 1) / 2 = half := by omega
          -- An odd exponent takes the current square into the product, which need not fit.
          rw [if_pos (by omega)]
          by_cases hproduct : inInt64 (x ^ (a + b)) = true
          · have hproduct : exactPower? x (a + b) = some (x ^ (a + b)) := if_pos hproduct
            rw [hproduct]
            dsimp only
            rw [ih, hhalf, exponent_odd]
          · rw [exactPower?_eq_none hproduct le_rfl, ← exponent_odd,
              exactPower?_eq_none hproduct (Nat.le_add_right _ _)]
      · have hle : b + b ≤ a + b * (n + 2) := by
          rw [Nat.mul_add]
          omega
        rw [exactPower?_eq_none hsquare le_rfl, exactPower?_eq_none hsquare hle]
        split
        · contradiction
        · rfl

/-- A power of whole numbers is found if it fits, for all exponents of 32 bits. -/
theorem wholePower?_eq (x : Int) (k : Nat) :
    wholePower? x k = if k < 2 ^ 32 then exactPower? x k else none := by
  rw [wholePower?, Nat.one_shiftLeft]
  rcases Nat.eq_zero_or_pos k with rfl | hk
  · rw [powerFrom?, exactPower?, pow_zero]
    rfl
  · have hpower := powerFrom?_eq (x := x) hk 0 1
    rw [pow_zero, pow_one, Nat.zero_add, Nat.one_mul] at hpower
    rw [hpower]

/-! ## Evaluation -/

/-- A whole number that is not negative is an exponent for every float. -/
theorem floatOp_pow (hy : inInt64 y = true) (h : 0 ≤ y) :
    floatOp .pow (Number.ofInt x) (Number.ofInt y)
      = .ok ((Number.ofInt x).pow (Number.ofInt y)) := by
  have hneg := Number.not_ofInt_neg h
  have hwhole : Number.Whole (Number.ofInt y) := by
    have hbits : y.natAbs < 2 ^ 64 := by
      rw [inInt64_iff_bounds] at hy
      omega
    exact Number.whole_ofInt hbits (by decide)
  simp only [floatOp, hneg, decide_false, Bool.and_false, Number.fraction_of_whole hwhole]
  rfl

/-- A whole number to the power of one that is not negative is whole where the power fits, and a
float otherwise. The powers of a base of size at most one always fit, but beyond exponents of 32
bits they are floats, too. -/
theorem wholeOp_pow (hy : inInt64 y = true) (h : 0 ≤ y) : wholeOp .pow x y
    = .ok (if inInt64 (x ^ y.toNat) = true ∧ ¬ (x.natAbs ≤ 1 ∧ 2 ^ 32 ≤ y) then .int (x ^ y.toNat)
        else .float ((Number.ofInt x).pow (Number.ofInt y))) := by
  have hpower : wholePower? x y.toNat
      = if inInt64 (x ^ y.toNat) = true ∧ ¬ (x.natAbs ≤ 1 ∧ 2 ^ 32 ≤ y) then some (x ^ y.toNat)
        else none := by
    rw [wholePower?_eq, exactPower?]
    by_cases hbits : y.toNat < 2 ^ 32
    · have hshort : ¬ (x.natAbs ≤ 1 ∧ 2 ^ 32 ≤ y) := by omega
      simp only [if_pos hbits, hshort, not_false_eq_true, and_true]
    · have hfits : inInt64 (x ^ y.toNat) = true ↔ x.natAbs ≤ 1 := inInt64_pow_iff (by omega)
      rw [if_neg hbits, if_neg]
      rw [hfits]
      omega
  simp only [wholeOp, if_neg (not_lt.mpr h), hpower, floatOp_pow hy h]
  by_cases hint : inInt64 (x ^ y.toNat) = true ∧ ¬ (x.natAbs ≤ 1 ∧ 2 ^ 32 ≤ y)
  · simp only [if_pos hint]
  · simp only [if_neg hint]
    rfl

/-- The power of two whole numbers is the exact whole number if that fits 64 bits, and a float if it
does not. Of the powers that fit, those of -1, 0 and 1 with an exponent of more than 32 bits are
floats too, and no others. -/
theorem eval_pow {sources : Sources} {l r : Expr} (hl : eval sources l = .ok (.int x))
    (hr : eval sources r = .ok (.int y)) (hy : inInt64 y = true) (h : 0 ≤ y) :
    eval sources (.binary .pow l r)
      = .ok (if inInt64 (x ^ y.toNat) = true ∧ ¬ (x.natAbs ≤ 1 ∧ 2 ^ 32 ≤ y)
          then .int (x ^ y.toNat)
          else .float ((Number.ofInt x).pow (Number.ofInt y))) := by
  rw [eval, hl, hr]
  dsimp only
  rw [binaryOp_int, wholeOp_pow hy h]

/-- The smallest whole number of 64 bits is a power, with the greatest exponent that any base
beyond 1 has; the same power of two is one too great. -/
theorem eval_pow_smallest :
    let power (base : Int) : Expr := .binary .pow (.literal (.int base)) (.name "n")
    let sources : Sources := [("n", .int 63)]
    eval sources (power (-2)) = .ok (.int Number.int64Min) ∧
    eval sources (power 2) = .ok (.float ((Number.ofInt 2).pow (Number.ofInt 63))) := by
  intro power sources
  constructor
  · exact eval_pow (x := -2) (y := 63) (l := .literal (.int (-2))) rfl rfl (by decide) (by decide)
  · exact eval_pow (x := 2) (y := 63) (l := .literal (.int 2)) rfl rfl (by decide) (by decide)

/-- One to the power of 2 ^ 32 is one, but a float. -/
theorem eval_pow_one : ¬ ∀ (sources : Sources) (x y : Int), inInt64 x = true → inInt64 y = true →
    0 ≤ y → inInt64 (x ^ y.toNat) = true →
    eval sources (.binary .pow (.literal (.int x)) (.literal (.int y)))
      = .ok (.int (x ^ y.toNat)) := by
  intro h
  have hpower : inInt64 (1 ^ (2 ^ 32 : Int).toNat) = true := by
    rw [one_pow]
    decide
  have hexact := h [] 1 (2 ^ 32) (by decide) (by decide) (by decide) hpower
  have hfloat : eval [] (.binary .pow (.literal (.int 1)) (.literal (.int (2 ^ 32))))
      = .ok (.float ((Number.ofInt 1).pow (Number.ofInt (2 ^ 32)))) := rfl
  rw [hfloat] at hexact
  cases hexact

end RowSignals.Expr
