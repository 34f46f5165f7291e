import RowSignals.Proofs.Number.Nearest
import RowSignals.Proofs.Number.Unsigned

/-!
# Positive numbers

A float is above zero exactly when its bits say so, and rounding a whole number to a float
keeps its sign.

* `pos_iff`: the bits of the positive floats.
* `ofInt_pos_iff`: the whole numbers that are positive as floats.
-/

namespace RowSignals.Number

open Float.Model (Format UnpackedFloat)
open Float.Model.UnpackedFloat (Sign unpackSign unpackExponent unpackMantissa unpack)

/-! ## Bits of positive floats -/

/-- What is not zero is above zero if its sign says so. -/
theorem zero_lt_infinity {s : Sign} :
    UnpackedFloat.lt (.zero .positive) (.infinity s) = true ↔ s = .positive := by
  cases s <;> simp [UnpackedFloat.lt, UnpackedFloat.compare]

/-- A finite float is above zero if its sign is positive. -/
theorem zero_lt_finite {s : Sign} {m : Nat} {e : Int} {h : 0 < m} :
    UnpackedFloat.lt (.zero .positive) (.finite s m e h) = true ↔ s = .positive := by
  cases s <;> simp [UnpackedFloat.lt, UnpackedFloat.compare]

theorem ofBitVec_positive_iff {b : BitVec 1} : Sign.ofBitVec b = .positive ↔ b = 0#1 := by
  unfold Sign.ofBitVec
  split
  · exact iff_of_true rfl ‹_›
  · exact iff_of_false (by simp) ‹_›

/-- The sign of the bits of a float: the highest one. -/
theorem toNat_unpackSign (b : BitVec Format.binary64.numBits) :
    (unpackSign b).toNat = b.toNat / 2 ^ 63 % 2 := by
  simp [unpackSign, Nat.shiftRight_eq_div_pow]

/-- The positive floats are those whose bits lie between the zero and the infinity. -/
theorem pos_iff {x : Float} : 0 < x ↔ 0 < x.toBits.toNat ∧ x.toBits.toNat ≤ 2047 * 2 ^ 52 := by
  -- sign, exponent and mantissa by the number of the bits
  let b : BitVec Format.binary64.numBits := x.toBits.toBitVec
  have hlt : x.toBits.toNat < 2 ^ 64 := x.toBits.toNat_lt
  have hsign : Sign.ofBitVec (unpackSign b) = .positive ↔ x.toBits.toNat / 2 ^ 63 % 2 = 0 := by
    rw [ofBitVec_positive_iff, ← BitVec.toNat_inj, toNat_unpackSign]
    exact Iff.rfl
  have hones : unpackExponent b = -1#_ ↔ x.toBits.toNat / 2 ^ 52 % 2 ^ 11 = 2047 := by
    rw [← BitVec.toNat_inj, toNat_unpackExponent]
    exact Iff.rfl
  have hzeros : unpackExponent b = 0#_ ↔ x.toBits.toNat / 2 ^ 52 % 2 ^ 11 = 0 := by
    rw [← BitVec.toNat_inj, toNat_unpackExponent]
    exact Iff.rfl
  have hmantissa : unpackMantissa b = 0#_ ↔ x.toBits.toNat % 2 ^ 52 = 0 := by
    rw [← BitVec.toNat_inj, toNat_unpackMantissa]
    exact Iff.rfl
  have hpos : 0 < x ↔ UnpackedFloat.lt (.zero .positive) (unpack Format.binary64 b) = true :=
    decide_eq_true_iff
  rw [hpos]
  unfold Float.Model.UnpackedFloat.unpack
  dsimp only
  -- the cases of the unpacking: infinity and no number, zero and the small numbers, all others
  by_cases he : unpackExponent b = -1#_
  · rw [if_pos he]
    rw [hones] at he
    by_cases hm : unpackMantissa b = 0#_
    · rw [if_pos hm, zero_lt_infinity, hsign]
      rw [hmantissa] at hm
      omega
    · rw [if_neg hm]
      rw [hmantissa] at hm
      refine iff_of_false (by decide) ?_
      omega
  · rw [if_neg he]
    rw [hones] at he
    by_cases hz : unpackExponent b = 0#_
    · rw [if_pos hz]
      rw [hzeros] at hz
      by_cases hm : unpackMantissa b = 0#_
      · rw [dif_pos hm]
        rw [hmantissa] at hm
        refine iff_of_false Bool.false_ne_true ?_
        omega
      · rw [dif_neg hm, zero_lt_finite, hsign]
        rw [hmantissa] at hm
        omega
    · rw [if_neg hz, zero_lt_finite, hsign]
      rw [hzeros] at hz
      omega

/-! ## Whole numbers as floats -/

/-- Rounding a quotient does not go below its whole part. -/
theorem div_le_nearestWhole (tie : Tie) (num den : Nat) :
    num / den ≤ nearestWhole tie num den := by
  unfold nearestWhole
  dsimp only
  split_ifs <;> omega

/-- A whole number that is not zero has a bit before the point, far from the least exponent. -/
theorem leadingExponent_ge {n : Nat} (h : 0 < n) : -52 ≤ leadingExponent n 1 := by
  have hone : (1 : ℚ) ≤ (n : ℚ) / (1 : Nat) := by
    rw [Nat.cast_one, div_one]
    exact_mod_cast h
  obtain ⟨-, hhigh⟩ := leadingExponent_bounds h one_pos
  have hlt : (2 : ℚ) ^ (0 : Int) < 2 ^ (leadingExponent n 1 + 53) := by
    rw [zpow_zero]
    exact hone.trans_lt hhigh
  have := (zpow_lt_zpow_iff_right₀ one_lt_two).mp hlt
  omega

/-- The mantissa of a whole number has 53 bits, or it is rounded up to a power of two. -/
theorem mantissa_bounds {n : Nat} (h : 0 < n) :
    let parts := shifted n 1 (leadingExponent n 1)
    2 ^ 52 ≤ nearestWhole .even parts.1 parts.2 ∧ nearestWhole .even parts.1 parts.2 ≤ 2 ^ 53 := by
  intro parts
  obtain ⟨hlow, hhigh⟩ := leadingExponent_bounds h one_pos
  have hlow : 2 ^ 52 ≤ parts.1 / parts.2 :=
    Nat.le_of_not_lt fun hlt => not_lt.mpr hlow ((shifted_lt_iff n one_pos _ 52).mp hlt)
  have hhigh : parts.1 / parts.2 < 2 ^ 53 := (shifted_lt_iff n one_pos _ 53).mpr hhigh
  refine ⟨hlow.trans (div_le_nearestWhole .even parts.1 parts.2), ?_⟩
  unfold nearestWhole
  dsimp only
  split_ifs <;> omega

/-- A whole number that is not zero is not rounded to zero. -/
theorem nearestMagnitude_pos {n : Nat} (h : 0 < n) : 0 < nearestMagnitude n 1 := by
  have hleading := leadingExponent_ge h
  obtain ⟨hmantissa, -⟩ := mantissa_bounds h
  have hexponent : max (leadingExponent n 1) (-1074) = leadingExponent n 1 := by omega
  unfold nearestMagnitude
  rw [if_neg (by omega)]
  simp only [Nat.one_shiftLeft, hexponent]
  split
  · omega
  · omega

theorem toBits_ofMagnitude {negative : Bool} {magnitude : Nat} (h : magnitude ≤ 2047 * 2 ^ 52) :
    (ofMagnitude negative magnitude).toBits.toNat
      = if negative then 2 ^ 63 + magnitude else magnitude := by
  have hbits : (UInt64.ofNat (if negative then 2 ^ 63 + magnitude else magnitude)).toNat
      = if negative then 2 ^ 63 + magnitude else magnitude := by
    have hlimit : 2 ^ 63 + 2047 * 2 ^ 52 < UInt64.size := by decide
    refine UInt64.toNat_ofNat_of_lt' (Nat.lt_of_le_of_lt ?_ hlimit)
    split <;> omega
  rw [ofMagnitude, Nat.one_shiftLeft, toBits_ofBits, hbits]
  rw [hbits]
  split <;> omega

/-- A whole number is positive as a float if it is positive. -/
theorem ofInt_pos_iff {i : Int} : 0 < ofInt i ↔ 0 < i := by
  have hle := nearestMagnitude_le i.natAbs 1
  rw [pos_iff, ofInt, ofRatio, toBits_ofMagnitude hle]
  rcases lt_trichotomy i 0 with hi | rfl | hi
  · simp only [decide_eq_true hi, if_true]
    omega
  · simp [nearestMagnitude]
  · have hpos := nearestMagnitude_pos (n := i.natAbs) (by omega)
    simp only [decide_eq_false (not_lt.mpr hi.le), if_neg Bool.false_ne_true]
    omega

end RowSignals.Number
