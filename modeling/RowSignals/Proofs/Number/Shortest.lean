import Mathlib.Algebra.Order.Archimedean.Basic
import RowSignals.Proofs.Number.Nearest
import RowSignals.Proofs.Number.Report

/-!
# Shortest decimals are nearest to their float

The search for the shortest decimal of a float always ends with a decimal that is nearest to
this float, at seventeen digits at the latest.

* `decimalPoint_bounds`: the place of the point fits the value.
* `exists_gridHit`: seventeen digits are enough.
* `shortest_nearest`: the value of the decimal found.
-/

namespace RowSignals.Number

/-! ## The interval of a float -/

theorem ratio_scaled (m : Nat) (e : Int) : ratio (scaled m e) = m * 2 ^ e := by
  rw [scaled, ratio_timesPower, Nat.cast_one, div_one, Nat.cast_ofNat]

theorem ratio_timesTenPower (num den : Nat) (e : Int) :
    ratio (timesTenPower num den e) = num / den * 10 ^ e := by
  rw [timesTenPower, ratio_timesPower, Nat.cast_ofNat]

theorem Interval.of_den_pos (m : Nat) (e : Int) : 0 < (Interval.of m e).den :=
  timesPower_den_pos two_pos 1 one_pos (e - 2)

/-- A multiple of the unit of an interval, over its denominator. -/
theorem Interval.of_ratio (m : Nat) (e : Int) (k : Nat) :
    ((k * (scaled 1 (e - 2)).1 : Nat) / (Interval.of m e).den : ℚ) = k / 4 * 2 ^ e := by
  have hunit : ratio (scaled 1 (e - 2)) = 2 ^ e / 4 := by
    rw [ratio_scaled, zpow_sub₀ two_ne_zero]
    norm_num
  have hden : (Interval.of m e).den = (scaled 1 (e - 2)).2 := rfl
  rw [hden, Nat.cast_mul, mul_div_assoc, ← ratio, hunit]
  ring

theorem Interval.of_value (m : Nat) (e : Int) :
    ((Interval.of m e).value / (Interval.of m e).den : ℚ) = m * 2 ^ e := by
  have hvalue : (Interval.of m e).value = 4 * m * (scaled 1 (e - 2)).1 := rfl
  rw [hvalue, Interval.of_ratio]
  push_cast
  ring

/-- The upper end of the interval is half a place above the float. -/
theorem Interval.of_high (m : Nat) (e : Int) :
    ((Interval.of m e).high / (Interval.of m e).den : ℚ) = (m + 1 / 2) * 2 ^ e := by
  have hhigh : (Interval.of m e).high = (4 * m + 2) * (scaled 1 (e - 2)).1 := rfl
  rw [hhigh, Interval.of_ratio]
  push_cast
  ring

/-- The lower end of the interval is below the float by the gap there. -/
theorem Interval.of_low {m : Nat} (hm : 0 < m) (e : Int) :
    ((Interval.of m e).low / (Interval.of m e).den : ℚ) = (m - gapBelow m e) * 2 ^ e := by
  have hlow : (Interval.of m e).low
      = (4 * m - (if m = 2 ^ 52 ∧ -1074 < e then 1 else 2)) * (scaled 1 (e - 2)).1 := by
    unfold Interval.of
    simp
  rw [hlow, Interval.of_ratio, gapBelow]
  split
  · rw [Nat.cast_sub (by omega)]
    push_cast
    ring
  · rw [Nat.cast_sub (by omega)]
    push_cast
    ring

/-- The interval of a float holds the fractions that are rounded to it. -/
theorem Interval.contains_iff {m num den : Nat} (hm : 0 < m) (hd : 0 < den) (e : Int) :
    (Interval.of m e).contains num den = true ↔ Nearest m e (num / den) := by
  have hden : (0 : ℚ) < den := by exact_mod_cast hd
  have hunit : (0 : ℚ) < (Interval.of m e).den := by exact_mod_cast Interval.of_den_pos m e
  have hclosed : (Interval.of m e).closed = decide (m % 2 = 0) := rfl
  -- the two ends, crosswise over both denominators
  have hle : (Interval.of m e).low * den ≤ num * (Interval.of m e).den
      ↔ (m - gapBelow m e) * 2 ^ e ≤ (num / den : ℚ) := by
    rw [← Interval.of_low hm, div_le_div_iff₀ hunit hden]
    exact_mod_cast Iff.rfl
  have hlt : (Interval.of m e).low * den < num * (Interval.of m e).den
      ↔ (m - gapBelow m e) * 2 ^ e < (num / den : ℚ) := by
    rw [← Interval.of_low hm, div_lt_div_iff₀ hunit hden]
    exact_mod_cast Iff.rfl
  have hge : num * (Interval.of m e).den ≤ (Interval.of m e).high * den
      ↔ (num / den : ℚ) ≤ (m + 1 / 2) * 2 ^ e := by
    rw [← Interval.of_high, div_le_div_iff₀ hden hunit]
    exact_mod_cast Iff.rfl
  have hgt : num * (Interval.of m e).den < (Interval.of m e).high * den
      ↔ (num / den : ℚ) < (m + 1 / 2) * 2 ^ e := by
    rw [← Interval.of_high, div_lt_div_iff₀ hden hunit]
    exact_mod_cast Iff.rfl
  unfold Interval.contains
  dsimp only
  rw [hclosed]
  by_cases heven : m % 2 = 0
  · simp only [heven, decide_true, if_true, Bool.and_eq_true, decide_eq_true_eq, hle, hge]
    exact ⟨fun h => ⟨h.1, h.2, by omega⟩, fun h => ⟨h.ge, h.le⟩⟩
  · simp only [heven, decide_false, Bool.false_eq_true, if_false, Bool.and_eq_true,
      decide_eq_true_eq, hlt, hgt]
    exact ⟨fun h => ⟨h.1.le, h.2.le, fun _ => h⟩, fun h => h.odd (by omega)⟩

theorem Interval.containsDecimal_iff {m : Nat} (hm : 0 < m) (e : Int) (n : Nat) (p : Int) :
    (Interval.of m e).containsDecimal n p = true ↔ Nearest m e (n * 10 ^ p) := by
  have hratio := ratio_timesTenPower n 1 p
  rw [ratio, Nat.cast_one, div_one] at hratio
  rw [← hratio]
  exact Interval.contains_iff hm (timesTenPower_pos n one_pos p) e

/-! ## The place of the point -/

/-- A power of ten below a power of two, from `10 ^ 3 ≤ 2 ^ 10` and `2 ^ 93 ≤ 10 ^ 28`. -/
theorem ten_zpow_le_two_zpow {p k : Int} (hpos : 0 ≤ k → 10 * p ≤ 3 * k)
    (hneg : k ≤ 0 → 93 * p ≤ 28 * k) : (10 : ℚ) ^ p ≤ 2 ^ k := by
  -- Compared as tenth powers for positive exponents, as ninety-third powers for negative ones.
  rcases le_total 0 k with hk | hk
  · refine le_of_pow_le_pow_left₀ (n := 10) (by norm_num) (by positivity) ?_
    obtain ⟨k, rfl⟩ := Int.eq_ofNat_of_zero_le hk
    calc ((10 : ℚ) ^ p) ^ 10 = 10 ^ (10 * p) := by
          rw [← zpow_natCast, ← zpow_mul, mul_comm]
          rfl
      _ ≤ 10 ^ (3 * (k : Int)) := zpow_le_zpow_right₀ (by norm_num) (hpos hk)
      _ = 1000 ^ k := by
          rw [zpow_mul, zpow_natCast]
          norm_num
      _ ≤ 1024 ^ k := by gcongr; norm_num
      _ = ((2 : ℚ) ^ (k : Int)) ^ 10 := by
          rw [zpow_natCast, ← pow_mul, mul_comm, pow_mul]
          norm_num
  · refine le_of_pow_le_pow_left₀ (n := 93) (by norm_num) (by positivity) ?_
    obtain ⟨j, hj⟩ := Int.eq_ofNat_of_zero_le (show 0 ≤ -k by omega)
    obtain rfl : k = -(j : Int) := by omega
    calc ((10 : ℚ) ^ p) ^ 93 = 10 ^ (93 * p) := by
          rw [← zpow_natCast, ← zpow_mul, mul_comm]
          rfl
      _ ≤ 10 ^ (28 * -(j : Int)) := zpow_le_zpow_right₀ (by norm_num) (hneg hk)
      _ = ((10 ^ 28) ^ j)⁻¹ := by
          rw [zpow_mul, zpow_neg, zpow_natCast]
          norm_num
      _ ≤ ((2 ^ 93) ^ j)⁻¹ := by gcongr; norm_num
      _ = ((2 : ℚ) ^ (-(j : Int))) ^ 93 := by
          rw [zpow_neg, zpow_natCast, inv_pow, ← pow_mul, ← pow_mul, mul_comm]

theorem two_zpow_le_ten_zpow {p k : Int} (hpos : 0 ≤ k → 28 * k ≤ 93 * p)
    (hneg : k ≤ 0 → 3 * k ≤ 10 * p) : (2 : ℚ) ^ k ≤ 10 ^ p := by
  have h := ten_zpow_le_two_zpow (p := -p) (k := -k) (fun hk => by have := hneg (by omega); omega)
    (fun hk => by have := hpos (by omega); omega)
  rw [zpow_neg, zpow_neg] at h
  exact (inv_le_inv₀ (by positivity) (by positivity)).mp h

theorem belowTenPower_iff (num : Nat) {den : Nat} (hd : 0 < den) (p : Int) :
    belowTenPower num den p = true ↔ (num / den : ℚ) < 10 ^ p := by
  have hpos : (0 : ℚ) < (timesTenPower num den (-p)).2 := by
    exact_mod_cast timesTenPower_pos num hd (-p)
  have hratio := ratio_timesTenPower num den (-p)
  rw [zpow_neg, ← div_eq_mul_inv, ratio] at hratio
  calc belowTenPower num den p = true
      ↔ (timesTenPower num den (-p)).1 < (timesTenPower num den (-p)).2 := decide_eq_true_iff
    _ ↔ ((timesTenPower num den (-p)).1 : ℚ) < (timesTenPower num den (-p)).2 := by
      exact_mod_cast Iff.rfl
    _ ↔ ((timesTenPower num den (-p)).1 / (timesTenPower num den (-p)).2 : ℚ) < 1 :=
      (div_lt_one hpos).symm
    _ ↔ (num / den : ℚ) < 10 ^ p := by
      rw [hratio, div_lt_one (by positivity)]

/-- The point stands where the value has its first digit, for values in the range of floats. -/
theorem decimalPoint_bounds {num den : Nat} (hn : 0 < num) (hd : 0 < den)
    (hlow : (2 : ℚ) ^ (-1074 : Int) ≤ num / den) (hhigh : (num / den : ℚ) < 2 ^ (1024 : Int)) :
    (10 : ℚ) ^ (decimalPoint num den - 1) ≤ num / den
      ∧ (num / den : ℚ) < 10 ^ decimalPoint num den := by
  obtain ⟨habove, hbelow⟩ := ratio_bounds hn hd
  have hmin := (zpow_lt_zpow_iff_right₀ one_lt_two).mp (hlow.trans_lt hbelow)
  have hmax := (zpow_lt_zpow_iff_right₀ one_lt_two).mp (habove.trans hhigh)
  unfold decimalPoint
  dsimp only
  rw [Int.fdiv_eq_ediv_of_nonneg _ (by norm_num), List.find?_map]
  generalize hg : ((num.log2 : Int) - den.log2 - 1) * 30103 / 100000 - 1 = guess
  -- the last candidate is above the value, and the one before the first is below it
  have hlast : belowTenPower num den (guess + 5) = true := by
    rw [belowTenPower_iff num hd]
    exact hbelow.trans_le (two_zpow_le_ten_zpow (by omega) (by omega))
  have hfirst : (10 : ℚ) ^ (guess - 1) ≤ num / den :=
    (ten_zpow_le_two_zpow (by omega) (by omega)).trans habove.le
  have hfound : ((List.range 6).find? (belowTenPower num den ∘ fun k : Nat => guess + k)).isSome
      = true :=
    List.find?_isSome.mpr ⟨5, by decide, hlast⟩
  obtain ⟨k, hk⟩ := Option.isSome_iff_exists.mp hfound
  rw [hk, Option.map_some, Option.getD_some]
  obtain ⟨hbelowk, -, hbefore⟩ := List.find?_range_eq_some.mp hk
  refine ⟨?_, (belowTenPower_iff num hd _).mp hbelowk⟩
  cases k with
  | zero => simpa using hfirst
  | succ k =>
    have hnot := hbefore k (Nat.lt_succ_self k)
    have hnot : ¬ belowTenPower num den (guess + k) = true := by simpa using hnot
    rw [belowTenPower_iff num hd, not_lt] at hnot
    have hexp : guess + ((k + 1 : Nat) : Int) - 1 = guess + k := by
      push_cast
      ring
    rw [hexp]
    exact hnot

/-! ## Grids -/

/-- A quotient is rounded to its whole part or to the next number. -/
theorem nearestWhole_eq (tie : Tie) (num den : Nat) :
    nearestWhole tie num den = num / den ∨ nearestWhole tie num den = num / den + 1 := by
  unfold nearestWhole
  grind

/-- The nearest whole number is at most a half away. -/
theorem abs_nearestWhole_sub_le (tie : Tie) (num : Nat) {den : Nat} (hd : 0 < den) :
    |(nearestWhole tie num den : ℚ) - num / den| ≤ 1 / 2 := by
  have hpos : (0 : ℚ) < den := by exact_mod_cast hd
  obtain ⟨hge, hle⟩ := nearestWhole_bounds tie num hd
  have hlow : (2 * (nearestWhole tie num den * den) : ℚ) ≤ 2 * num + den := by
    exact_mod_cast hge
  have hhigh : (2 * num : ℚ) ≤ 2 * (nearestWhole tie num den * den) + den := by
    exact_mod_cast hle
  rw [abs_le]
  constructor
  · rw [neg_le_sub_iff_le_add, div_le_iff₀ hpos]
    linarith
  · rw [sub_le_iff_le_add, ← sub_le_iff_le_add', le_div_iff₀ hpos]
    linarith

/-- A grid point that is found has as many digits as the grid, or is the power of ten after
them. -/
theorem gridHit_bounds {i : Interval} {tie : Tie} {point : Int} {count n : Nat} (hd : 0 < i.den)
    (hlow : (10 : ℚ) ^ (point - 1) ≤ i.value / i.den)
    (hhigh : (i.value / i.den : ℚ) < 10 ^ point) (hcount : 0 < count)
    (h : gridHit i tie point count = some n) : 10 ^ (count - 1) ≤ n ∧ n ≤ 10 ^ count := by
  have hden := timesTenPower_pos i.value hd (count - point)
  have hpos : (0 : ℚ) < (timesTenPower i.value i.den (count - point)).2 := by exact_mod_cast hden
  have hratio := ratio_timesTenPower i.value i.den (count - point)
  unfold gridHit at h
  have hmem := List.mem_of_find?_eq_some h
  generalize timesTenPower i.value i.den (count - point) = grid at *
  -- the value lies between the two powers of ten
  have hge : 10 ^ (count - 1) ≤ grid.1 / grid.2 := by
    rw [Nat.le_div_iff_mul_le hden]
    have : (10 ^ (count - 1) : ℚ) ≤ ratio grid := by
      rw [hratio]
      calc (10 ^ (count - 1) : ℚ) = 10 ^ (point - 1) * 10 ^ ((count : Int) - point) := by
            rw [← zpow_add₀ (by norm_num), ← zpow_natCast]
            congr 1
            omega
        _ ≤ _ := by gcongr
    rw [ratio, le_div_iff₀ hpos] at this
    exact_mod_cast this
  have hlt : grid.1 / grid.2 < 10 ^ count := by
    rw [Nat.div_lt_iff_lt_mul hden]
    have : ratio grid < 10 ^ count := by
      rw [hratio]
      calc (i.value / i.den : ℚ) * 10 ^ ((count : Int) - point)
          < 10 ^ point * 10 ^ ((count : Int) - point) := by gcongr
        _ = 10 ^ count := by
            rw [← zpow_add₀ (by norm_num), ← zpow_natCast]
            congr 1
            omega
    rw [ratio, div_lt_iff₀ hpos] at this
    exact_mod_cast this
  have hn : n = grid.1 / grid.2 ∨ n = grid.1 / grid.2 + 1 := by
    have hnearest := nearestWhole_eq tie grid.1 grid.2
    simp only [List.mem_cons, List.not_mem_nil, or_false] at hmem
    rcases hmem with rfl | rfl | rfl
    · exact hnearest
    · exact .inl rfl
    · exact .inr rfl
  omega

/-- What is at most a part in `2 * 10 ^ 16` away from a float is rounded to it. -/
theorem nearest_of_abs_sub_le {m : Nat} {e : Int} {q : ℚ} (hc : Canonical m e)
    (h : |q - m * 2 ^ e| ≤ m * 2 ^ e / (2 * 10 ^ 16)) : Nearest m e q := by
  have hpos : (0 : ℚ) < 2 ^ e := by positivity
  -- a mantissa is below `2 ^ 53`, and so below `10 ^ 16`
  have hhigh : (m * 2 ^ e / (2 * 10 ^ 16) : ℚ) < 1 / 2 * 2 ^ e := by
    have hm : (m : ℚ) < 2 ^ 53 := by exact_mod_cast hc.mantissa_lt
    have hm := mul_lt_mul_of_pos_right hm hpos
    linarith
  have hlow : (m * 2 ^ e / (2 * 10 ^ 16) : ℚ) < gapBelow m e * 2 ^ e := by
    unfold gapBelow
    split
    · -- where the reach below is half as far, the mantissa is half as large
      rename_i hpow
      rw [hpow.1]
      push_cast
      linarith
    · exact hhigh
  obtain ⟨hge, hle⟩ := abs_le.mp h
  exact ⟨by linarith, by linarith, fun _ => ⟨by linarith, by linarith⟩⟩

/-- Seventeen digits are enough. -/
theorem exists_gridHit {m : Nat} {e : Int} (hc : Canonical m e) (hm : 0 < m) (tie : Tie)
    {point : Int} (hlow : (10 : ℚ) ^ (point - 1) ≤ m * 2 ^ e) :
    ∃ n, gridHit (Interval.of m e) tie point 17 = some n := by
  have hden := timesTenPower_pos (Interval.of m e).value (Interval.of_den_pos m e) (17 - point)
  have hratio := ratio_timesTenPower (Interval.of m e).value (Interval.of m e).den (17 - point)
  rw [Interval.of_value, ratio] at hratio
  have hhalf := abs_nearestWhole_sub_le tie
    (timesTenPower (Interval.of m e).value (Interval.of m e).den (17 - point)).1 hden
  rw [hratio] at hhalf
  -- the nearest point of the grid is found first
  refine Option.isSome_iff_exists.mp (List.find?_isSome.mpr ⟨_, List.mem_cons_self, ?_⟩)
  refine (Interval.containsDecimal_iff hm e _ _).mpr (nearest_of_abs_sub_le hc ?_)
  generalize nearestWhole tie _ _ = n at *
  have hinv : (10 : ℚ) ^ (17 - point) * 10 ^ (point - 17) = 1 := by
    rw [← zpow_add₀ (by norm_num), sub_add_sub_cancel', sub_self, zpow_zero]
  have hstep : (10 : ℚ) ^ (point - 17) ≤ m * 2 ^ e / 10 ^ 16 := by
    rw [le_div_iff₀ (by positivity), ← zpow_natCast, ← zpow_add₀ (by norm_num)]
    refine (zpow_le_zpow_right₀ (by norm_num) ?_).trans hlow
    push_cast
    omega
  calc |(n : ℚ) * 10 ^ (point - 17) - m * 2 ^ e|
      = |((n : ℚ) - m * 2 ^ e * 10 ^ (17 - point)) * 10 ^ (point - 17)| := by
        rw [sub_mul, mul_assoc (m * 2 ^ e : ℚ), hinv, mul_one]
    _ = |(n : ℚ) - m * 2 ^ e * 10 ^ (17 - point)| * 10 ^ (point - 17) := by
        rw [abs_mul, abs_of_pos (show (0 : ℚ) < 10 ^ (point - 17) by positivity)]
    _ ≤ 1 / 2 * 10 ^ (point - 17) := by gcongr
    _ ≤ m * 2 ^ e / (2 * 10 ^ 16) := by linarith

/-! ## The value of a decimal -/

/-- The number that a decimal stands for. -/
def Decimal.value (d : Decimal) : ℚ :=
  digitsValue d.chars * 10 ^ (d.point - d.chars.length)

/-- The number of digits of a number, from the powers of ten around it. -/
theorem length_toDigits {n count : Nat} (hcount : 0 < count) (hlow : 10 ^ (count - 1) ≤ n)
    (hhigh : n < 10 ^ count) : (Nat.toDigits 10 n).length = count := by
  have hle := (Nat.length_toDigits_le_iff (by norm_num) hcount).mpr hhigh
  refine hle.antisymm ?_
  by_contra hlt
  have hpos : 0 < (Nat.toDigits 10 n).length := Nat.length_toDigits_pos
  have hle : (Nat.toDigits 10 n).length ≤ count - 1 := by omega
  have hlt := (Nat.length_toDigits_le_iff (by norm_num) (by omega)).mp hle
  omega

/-- The zeros that are left out of a decimal are made up for by the place of its point. -/
theorem value_significantDigits {n count : Nat} (hcount : 0 < count)
    (hlow : 10 ^ (count - 1) ≤ n) (hhigh : n < 10 ^ count) (point : Int) :
    (Decimal.mk (significantDigits n) point).value = n * 10 ^ (point - count) := by
  obtain ⟨zeros, hzeros⟩ := significantDigits_append n
  have hlength := congrArg List.length hzeros
  have hvalue := congrArg digitsValue hzeros
  rw [List.length_append, List.length_replicate, length_toDigits hcount hlow hhigh] at hlength
  rw [digitsValue_append, digitsValue_zeros, List.length_replicate, digitsValue_toDigits,
    Nat.add_zero] at hvalue
  unfold Decimal.value Decimal.chars
  dsimp only
  generalize (significantDigits n).map digitChar = cs at *
  rw [← hvalue, ← hlength]
  push_cast
  rw [mul_assoc, ← zpow_natCast, ← zpow_add₀ (by norm_num)]
  congr 2
  omega

/-! ## The shortest decimal -/

/-- A positive float lies between the least one and the power of two above the greatest. -/
theorem value_bounds {m : Nat} {e : Int} (hc : Canonical m e) (hm : 0 < m) :
    (2 : ℚ) ^ (-1074 : Int) ≤ m * 2 ^ e ∧ (m * 2 ^ e : ℚ) < 2 ^ (1024 : Int) := by
  have hone : (1 : ℚ) ≤ m := by exact_mod_cast hm
  have hlt : (m : ℚ) < 2 ^ (53 : Int) := by exact_mod_cast hc.mantissa_lt
  constructor
  · calc (2 : ℚ) ^ (-1074 : Int) ≤ 2 ^ e := zpow_le_zpow_right₀ one_le_two hc.exponent_ge
      _ ≤ m * 2 ^ e := le_mul_of_one_le_left (by positivity) hone
  · calc (m * 2 ^ e : ℚ) < 2 ^ (53 : Int) * 2 ^ e := by gcongr
      _ = 2 ^ (53 + e) := (zpow_add₀ two_ne_zero _ _).symm
      _ ≤ 2 ^ (1024 : Int) := by
        have := hc.exponent_le
        exact zpow_le_zpow_right₀ one_le_two (by omega)

/-- The value of the shortest decimal of a float is rounded to this float. -/
theorem shortest_nearest {m : Nat} {e : Int} (hc : Canonical m e) (hm : 0 < m) (tie : Tie) :
    Nearest m e (shortest tie m e).value := by
  have hden := Interval.of_den_pos m e
  have hvalue := Interval.of_value m e
  have hpos : 0 < (Interval.of m e).value := by
    have hunit : 0 < (scaled 1 (e - 2)).1 := scaled_pos one_pos _
    show 0 < 4 * m * (scaled 1 (e - 2)).1
    positivity
  obtain ⟨hmin, hmax⟩ := value_bounds hc hm
  rw [← hvalue] at hmin hmax
  obtain ⟨hlow, hhigh⟩ := decimalPoint_bounds hpos hden hmin hmax
  unfold shortest
  dsimp only [Nat.pow_eq]
  generalize decimalPoint (Interval.of m e).value (Interval.of m e).den = point at *
  split
  · rename_i hit
    obtain ⟨k, -, hk⟩ := List.exists_of_findSome?_eq_some hit
    obtain ⟨n, hgrid, heq⟩ := Option.map_eq_some_iff.mp hk
    obtain ⟨rfl, rfl⟩ := Prod.mk.inj heq
    obtain ⟨hge, hle⟩ := gridHit_bounds hden hlow hhigh (Nat.succ_pos k) hgrid
    have hnearest := (Interval.containsDecimal_iff hm e _ _).mp (contains_of_gridHit hgrid)
    by_cases hcarry : n = 10 ^ (k + 1)
    · -- the grid point has one digit more than the grid
      have hlt : n < 10 ^ (k + 2) := by
        rw [hcarry]
        exact Nat.pow_lt_pow_right (by norm_num) (Nat.lt_succ_self _)
      have hexp : point + 1 - ((k + 2 : Nat) : Int) = point - ((k + 1 : Nat) : Int) := by
        push_cast
        ring
      rw [if_pos hcarry, value_significantDigits (Nat.succ_pos (k + 1)) hcarry.ge hlt, hexp]
      exact hnearest
    · rw [if_neg hcarry, value_significantDigits (Nat.succ_pos k) hge (by omega)]
      exact hnearest
  · rename_i hnone
    rw [hvalue] at hlow
    obtain ⟨n, hn⟩ := exists_gridHit hc hm tie hlow
    have hno := List.findSome?_eq_none_iff.mp hnone 16 (by decide)
    rw [hn] at hno
    cases hno

end RowSignals.Number
