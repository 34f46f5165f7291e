import Mathlib.Algebra.Order.Field.Power
import Mathlib.Data.Rat.Cast.Order
import Mathlib.Tactic.Linarith
import RowSignals.Proofs.Number.Bits

/-!
# Rounding to the nearest float

`nearestMagnitude` works on naturals; here it is compared with the rational number that its
two arguments stand for.

* `Nearest m e q`: the rational `q` is nearer to `m * 2 ^ e` than to any other float, or is
  halfway and `m` is even.
* `nearestMagnitude_of_nearest`: such a `q` is rounded to the magnitude of `m` and `e`.
-/

namespace RowSignals.Number

/-! ## Fractions -/

/-- The rational number of a numerator and a denominator. -/
def ratio (nd : Nat × Nat) : ℚ :=
  nd.1 / nd.2

/-- Multiplying by a power of a base, on the side of the fraction that keeps it whole. -/
theorem ratio_timesPower (base num den : Nat) (e : Int) :
    ratio (timesPower base num den e) = num / den * base ^ e := by
  simp only [timesPower, ratio, Nat.pow_eq]
  split
  · rename_i he
    obtain ⟨k, rfl⟩ := Int.eq_ofNat_of_zero_le he
    rw [Int.toNat_natCast, zpow_natCast]
    push_cast
    ring
  · rename_i he
    obtain ⟨k, hk⟩ := Int.eq_ofNat_of_zero_le (show 0 ≤ -e by omega)
    obtain rfl : e = -(k : Int) := by omega
    rw [Int.neg_neg, Int.toNat_natCast, zpow_neg, zpow_natCast]
    push_cast
    ring

theorem ratio_shifted (num den : Nat) (e : Int) :
    ratio (shifted num den e) = num / den / 2 ^ e := by
  rw [shifted, ratio_timesPower, Nat.cast_ofNat, zpow_neg, div_eq_mul_inv _ ((2 : ℚ) ^ e)]

theorem shifted_den_pos (num : Nat) {den : Nat} (h : 0 < den) (e : Int) :
    0 < (shifted num den e).2 :=
  timesPower_den_pos two_pos num h (-e)

/-- A power of two above the length of a number is above the number. -/
theorem ratio_bounds {num den : Nat} (hn : 0 < num) (hd : 0 < den) :
    (2 : ℚ) ^ ((num.log2 : Int) - den.log2 - 1) < num / den
      ∧ (num / den : ℚ) < 2 ^ ((num.log2 : Int) - den.log2 + 1) := by
  have hnum : ((2 : ℚ) ^ num.log2 ≤ num) ∧ (num : ℚ) < 2 ^ (num.log2 + 1) :=
    ⟨by exact_mod_cast Nat.log2_self_le hn.ne', by exact_mod_cast Nat.lt_log2_self⟩
  have hden : ((2 : ℚ) ^ den.log2 ≤ den) ∧ (den : ℚ) < 2 ^ (den.log2 + 1) :=
    ⟨by exact_mod_cast Nat.log2_self_le hd.ne', by exact_mod_cast Nat.lt_log2_self⟩
  have hpos : (0 : ℚ) < den := by exact_mod_cast hd
  constructor
  · rw [lt_div_iff₀ hpos]
    calc (2 : ℚ) ^ ((num.log2 : Int) - den.log2 - 1) * den
        < 2 ^ ((num.log2 : Int) - den.log2 - 1) * 2 ^ (den.log2 + 1) := by
          gcongr
          exact hden.2
      _ = 2 ^ num.log2 := by
          rw [← zpow_natCast, ← zpow_natCast, ← zpow_add₀ two_ne_zero]
          congr 1
          omega
      _ ≤ num := hnum.1
  · rw [div_lt_iff₀ hpos]
    calc (num : ℚ) < 2 ^ (num.log2 + 1) := hnum.2
      _ = 2 ^ ((num.log2 : Int) - den.log2 + 1) * 2 ^ den.log2 := by
          rw [← zpow_natCast, ← zpow_natCast, ← zpow_add₀ two_ne_zero]
          congr 1
          omega
      _ ≤ 2 ^ ((num.log2 : Int) - den.log2 + 1) * den := by
          gcongr
          exact hden.1

/-! ## The leading exponent -/

/-- The whole part of a shifted fraction has at most `k` bits if the fraction is below the power
of two that many bits above the shift. -/
theorem shifted_lt_iff (num : Nat) {den : Nat} (h : 0 < den) (e : Int) (k : Nat) :
    (shifted num den e).1 / (shifted num den e).2 < 2 ^ k ↔ (num / den : ℚ) < 2 ^ (e + k) := by
  have hden := shifted_den_pos num h e
  have hpos : (0 : ℚ) < (shifted num den e).2 := by exact_mod_cast hden
  calc (shifted num den e).1 / (shifted num den e).2 < 2 ^ k
      ↔ (shifted num den e).1 < 2 ^ k * (shifted num den e).2 := Nat.div_lt_iff_lt_mul hden
    _ ↔ ((shifted num den e).1 : ℚ) < 2 ^ k * (shifted num den e).2 := by exact_mod_cast Iff.rfl
    _ ↔ ratio (shifted num den e) < 2 ^ k := (div_lt_iff₀ hpos).symm
    _ ↔ (num / den : ℚ) < 2 ^ (e + k) := by
      rw [ratio_shifted, div_lt_iff₀ (by positivity), zpow_add₀ two_ne_zero, zpow_natCast,
        mul_comm]

/-- Shifted by its leading exponent, a positive fraction has a whole part of 53 bits. -/
theorem leadingExponent_bounds {num den : Nat} (hn : 0 < num) (hd : 0 < den) :
    (2 : ℚ) ^ (leadingExponent num den + 52) ≤ num / den
      ∧ (num / den : ℚ) < 2 ^ (leadingExponent num den + 53) := by
  obtain ⟨hlow, hhigh⟩ := ratio_bounds hn hd
  have hfits := shifted_lt_iff num hd ((num.log2 : Int) - den.log2 - 52) 52
  rw [Nat.cast_ofNat, sub_add_cancel] at hfits
  simp only [leadingExponent, Nat.one_shiftLeft]
  by_cases hsmall : (num / den : ℚ) < 2 ^ ((num.log2 : Int) - den.log2)
  · rw [if_pos (hfits.mpr hsmall)]
    constructor
    · rw [show (num.log2 : Int) - den.log2 - 52 - 1 + 52 = num.log2 - den.log2 - 1 by ring]
      exact hlow.le
    · rw [show (num.log2 : Int) - den.log2 - 52 - 1 + 53 = num.log2 - den.log2 by ring]
      exact hsmall
  · rw [if_neg (mt hfits.mp hsmall)]
    constructor
    · rw [show (num.log2 : Int) - den.log2 - 52 + 52 = num.log2 - den.log2 by ring]
      exact not_lt.mp hsmall
    · rw [show (num.log2 : Int) - den.log2 - 52 + 53 = num.log2 - den.log2 + 1 by ring]
      exact hhigh

/-- The leading exponent is the only one that leaves 53 bits. -/
theorem leadingExponent_eq {num den : Nat} {e : Int} (hn : 0 < num) (hd : 0 < den)
    (hlow : (2 : ℚ) ^ (e + 52) ≤ num / den) (hhigh : (num / den : ℚ) < 2 ^ (e + 53)) :
    leadingExponent num den = e := by
  obtain ⟨hlead, hnext⟩ := leadingExponent_bounds hn hd
  have hle := (zpow_lt_zpow_iff_right₀ one_lt_two).mp (hlead.trans_lt hhigh)
  have hge := (zpow_lt_zpow_iff_right₀ one_lt_two).mp (hlow.trans_lt hnext)
  omega

/-- A fraction that is too small for an exponent has a smaller leading one. -/
theorem leadingExponent_lt {num den : Nat} {e : Int} (hn : 0 < num) (hd : 0 < den)
    (hhigh : (num / den : ℚ) < 2 ^ (e + 52)) : leadingExponent num den < e := by
  obtain ⟨hlead, -⟩ := leadingExponent_bounds hn hd
  have hle := (zpow_lt_zpow_iff_right₀ one_lt_two).mp (hlead.trans_lt hhigh)
  omega

/-! ## Rounding a quotient -/

/-- The nearest whole number is at most a half away. -/
theorem nearestWhole_bounds (tie : Tie) (num : Nat) {den : Nat} (hd : 0 < den) :
    2 * (nearestWhole tie num den * den) ≤ 2 * num + den
      ∧ 2 * num ≤ 2 * (nearestWhole tie num den * den) + den := by
  have hmod : num % den < den := Nat.mod_lt _ hd
  have hsplit : num / den * den + num % den = num := Nat.div_add_mod' num den
  unfold nearestWhole
  dsimp only
  split_ifs <;> grind

/-- Of two whole numbers that are a half away the even one is taken. -/
theorem nearestWhole_half {num den : Nat} (hd : 0 < den)
    (h : 2 * (nearestWhole .even num den * den) = 2 * num + den
      ∨ 2 * num = 2 * (nearestWhole .even num den * den) + den) :
    nearestWhole .even num den % 2 = 0 := by
  have hmod : num % den < den := Nat.mod_lt _ hd
  have hsplit : num / den * den + num % den = num := Nat.div_add_mod' num den
  unfold nearestWhole at *
  dsimp only at *
  split_ifs at * <;> grind

/-- A whole number at most a half away is the one taken, if it is even wherever it is exactly a
half away. -/
theorem nearestWhole_even_eq {num den k : Nat} (hd : 0 < den)
    (hlow : (k - 1 / 2 : ℚ) ≤ num / den) (hhigh : (num / den : ℚ) ≤ k + 1 / 2)
    (hodd : k % 2 = 1 → (k - 1 / 2 : ℚ) < num / den ∧ (num / den : ℚ) < k + 1 / 2) :
    nearestWhole .even num den = k := by
  have hpos : (0 : ℚ) < den := by exact_mod_cast hd
  -- the same bounds on naturals
  have hlow' : 2 * (k * den) ≤ 2 * num + den := by
    rw [le_div_iff₀ hpos] at hlow
    have : (2 * (k * den) : ℚ) ≤ 2 * num + den := by linarith
    exact_mod_cast this
  have hhigh' : 2 * num ≤ 2 * (k * den) + den := by
    rw [div_le_iff₀ hpos] at hhigh
    have : (2 * num : ℚ) ≤ 2 * (k * den) + den := by linarith
    exact_mod_cast this
  have hodd' : k % 2 = 1 → 2 * (k * den) < 2 * num + den ∧ 2 * num < 2 * (k * den) + den := by
    intro h
    obtain ⟨hl, hh⟩ := hodd h
    rw [lt_div_iff₀ hpos] at hl
    rw [div_lt_iff₀ hpos] at hh
    have hl' : (2 * (k * den) : ℚ) < 2 * num + den := by linarith
    have hh' : (2 * num : ℚ) < 2 * (k * den) + den := by linarith
    exact ⟨by exact_mod_cast hl', by exact_mod_cast hh'⟩
  obtain ⟨hge, hle⟩ := nearestWhole_bounds .even num hd
  have hhalf := @nearestWhole_half num den hd
  generalize nearestWhole .even num den = n at *
  -- two numbers that differ are both a half away, so both even, yet next to each other
  rcases Nat.lt_trichotomy n k with hlt | heq | hgt
  · have hstep : (n + 1) * den ≤ k * den := Nat.mul_le_mul_right den hlt
    rw [Nat.succ_mul] at hstep
    have hnext : k = n + 1 := by
      by_contra hne
      have hstep : (n + 2) * den ≤ k * den := Nat.mul_le_mul_right den (by omega)
      rw [Nat.add_mul] at hstep
      omega
    have heven := hhalf (by omega)
    have hk := hodd' (by omega)
    omega
  · exact heq
  · have hstep : (k + 1) * den ≤ n * den := Nat.mul_le_mul_right den hgt
    rw [Nat.succ_mul] at hstep
    have hnext : n = k + 1 := by
      by_contra hne
      have hstep : (k + 2) * den ≤ n * den := Nat.mul_le_mul_right den (by omega)
      rw [Nat.add_mul] at hstep
      omega
    have heven := hhalf (by omega)
    have hk := hodd' (by omega)
    omega

/-! ## Rounding a fraction -/

/-- How far the numbers that round to a float reach below it, in units of its last place.
Below a power of two the floats are twice as dense. -/
def gapBelow (m : Nat) (e : Int) : ℚ :=
  if m = 2 ^ 52 ∧ -1074 < e then 1 / 4 else 1 / 2

/-- The rationals that are rounded to `m * 2 ^ e`. -/
structure Nearest (m : Nat) (e : Int) (q : ℚ) : Prop where
  ge : (m - gapBelow m e) * 2 ^ e ≤ q
  le : q ≤ (m + 1 / 2) * 2 ^ e
  odd : m % 2 = 1 → (m - gapBelow m e) * 2 ^ e < q ∧ q < (m + 1 / 2) * 2 ^ e

/-- The numbers that round to a float reach no further below it than above. -/
theorem gapBelow_le (m : Nat) (e : Int) : gapBelow m e ≤ 1 / 2 := by
  unfold gapBelow
  split <;> norm_num

/-- A fraction that is nearest to a mantissa at some exponent has that mantissa there. -/
theorem nearestWhole_shifted {num den m : Nat} {e : Int} (hd : 0 < den)
    (h : Nearest m e (num / den)) :
    nearestWhole .even (shifted num den e).1 (shifted num den e).2 = m := by
  have hpos : (0 : ℚ) < 2 ^ e := by positivity
  have hgap := mul_le_mul_of_nonneg_right (gapBelow_le m e) hpos.le
  have hratio : ((shifted num den e).1 / (shifted num den e).2 : ℚ) = num / den / 2 ^ e :=
    ratio_shifted num den e
  refine nearestWhole_even_eq (shifted_den_pos num hd e) ?_ ?_ ?_
  · rw [hratio, le_div_iff₀ hpos]
    linarith [h.ge]
  · rw [hratio, div_le_iff₀ hpos]
    exact h.le
  · intro hm
    obtain ⟨hlow, hhigh⟩ := h.odd hm
    rw [hratio, lt_div_iff₀ hpos, div_lt_iff₀ hpos]
    exact ⟨by linarith, hhigh⟩

/-- Just below a power of two the mantissa is rounded up to one bit more. -/
theorem nearestWhole_carry {num den : Nat} {e : Int} (hd : 0 < den) (he : -1074 < e)
    (h : Nearest (2 ^ 52) e (num / den)) (hlt : (num / den : ℚ) < 2 ^ 52 * 2 ^ e) :
    nearestWhole .even (shifted num den (e - 1)).1 (shifted num den (e - 1)).2 = 2 ^ 53 := by
  have hhalf : (2 : ℚ) ^ e = 2 * 2 ^ (e - 1) := by
    rw [← zpow_one_add₀ two_ne_zero]
    congr 1
    omega
  have hgap : gapBelow (2 ^ 52) e = 1 / 4 := if_pos ⟨rfl, he⟩
  have hge := h.ge
  rw [hgap, hhalf] at hge
  rw [hhalf] at hlt
  have hpos : (0 : ℚ) < 2 ^ (e - 1) := by positivity
  refine nearestWhole_shifted hd ⟨?_, ?_, by norm_num⟩
  · rw [gapBelow, if_neg (by norm_num)]
    push_cast at hge ⊢
    linarith
  · push_cast at hlt ⊢
    linarith

theorem two_zpow_add (e : Int) (k : Nat) : (2 : ℚ) ^ (e + k) = 2 ^ k * 2 ^ e := by
  rw [zpow_add₀ two_ne_zero, zpow_natCast, mul_comm]

/-- What is rounded to a mantissa of at most 53 bits lies below the next power of two. -/
theorem Nearest.lt_two_zpow {m : Nat} {e : Int} {q : ℚ} (h : Nearest m e q)
    (hm : m < 2 ^ 53) : q < 2 ^ (e + 53) := by
  have hm : (m + 1 : ℚ) ≤ 2 ^ 53 := by exact_mod_cast hm
  calc q ≤ (m + 1 / 2) * 2 ^ e := h.le
    _ < 2 ^ 53 * 2 ^ e := by
      gcongr
      linarith
    _ = 2 ^ (e + 53) := (two_zpow_add e 53).symm

/-- Only a power of two has numbers below its leading bit that round to it. -/
theorem Nearest.eq_two_pow {m : Nat} {e : Int} {q : ℚ} (h : Nearest m e q)
    (hm : 2 ^ 52 ≤ m) (hlt : q < 2 ^ (e + 52)) : m = 2 ^ 52 := by
  have hgap := gapBelow_le m e
  have hlt : (m - gapBelow m e) * 2 ^ e < 2 ^ 52 * 2 ^ e := by
    rw [← two_zpow_add e 52]
    exact h.ge.trans_lt hlt
  have hlt := lt_of_mul_lt_mul_right hlt (by positivity)
  have hm : (m : ℚ) < 2 ^ 52 + 1 := by linarith
  have hm : m < 2 ^ 52 + 1 := by exact_mod_cast hm
  omega

/-- What is nearest to a float is rounded to it. -/
theorem nearestMagnitude_of_nearest {num den m : Nat} {e : Int} (hc : Canonical m e)
    (hn : 0 < num) (hd : 0 < den) (h : Nearest m e (num / den)) :
    nearestMagnitude num den = magnitude m e := by
  have hmlt := hc.mantissa_lt
  have hele := hc.exponent_le
  have hege := hc.exponent_ge
  have hround := nearestWhole_shifted hd h
  rw [nearestMagnitude, if_neg hn.ne']
  simp only [Nat.one_shiftLeft]
  by_cases hlow : (2 : ℚ) ^ (e + 52) ≤ num / den
  · -- the leading exponent is `e`
    rw [leadingExponent_eq hn hd hlow (h.lt_two_zpow hmlt), max_eq_left hege, hround, magnitude]
    split
    · rfl
    · exact min_eq_left (by omega)
  · have hlow := not_le.mp hlow
    have hlead := leadingExponent_lt hn hd hlow
    rcases eq_or_lt_of_le hege with rfl | he
    · -- the leading exponent is out of range
      rw [max_eq_right (by omega), hround, magnitude]
      split
      · rfl
      · exact min_eq_left (by omega)
    · -- the leading exponent is the one before `e`, and the rounding carries
      obtain rfl := h.eq_two_pow (hc.mantissa_ge he) hlow
      have hexp : leadingExponent num den = e - 1 := by
        refine leadingExponent_eq hn hd ?_ ?_
        · have hge := h.ge
          have hgap := mul_le_mul_of_nonneg_right (gapBelow_le (2 ^ 52) e)
            (show (0 : ℚ) ≤ 2 ^ e by positivity)
          rw [show e - 1 + 52 = e + (51 : Nat) by push_cast; ring, two_zpow_add]
          push_cast at hge
          linarith [show (0 : ℚ) < 2 ^ e by positivity]
        · rw [show e - 1 + 53 = e + 52 by ring]
          exact hlow
      rw [hexp, max_eq_left (by omega), nearestWhole_carry hd he h, magnitude,
        if_neg (by norm_num), if_neg (by norm_num), min_eq_left (by omega)]
      · omega
      · rw [← two_zpow_add e 52]
        exact hlow

end RowSignals.Number
