import RowSignals.Number.Rounding
import RowSignals.Proofs.Number.Positive

/-!
# Whole floats

A float without a fraction is cut to itself, and nothing is left of it when it is taken from
itself. Rounding a whole number to a float leaves a whole number, and one that is not negative.

* `Whole`: the floats without a fraction.
* `fraction_of_whole`: their fractional part is zero.
* `whole_ofInt`: whole numbers are whole as floats.
* `not_ofInt_neg`: whole numbers that are not negative are not negative as floats.
-/

namespace RowSignals.Number

open Float.Model (Format UnpackedFloat)
open Float.Model.UnpackedFloat (Sign unpackExponent unpack)

/-! ## What is left of a float taken from itself -/

theorem unpackedSub_zero (f : Format) (s : Sign) :
    UnpackedFloat.sub f (.zero s) (.zero s) = .zero .positive := by
  cases s with
  | positive => rfl
  | negative => rfl

/-- A finite number from itself is the positive zero, whatever its sign. -/
theorem unpackedSub_finite (f : Format) (s : Sign) (m : Nat) (e : Int) (h : 0 < m) :
    UnpackedFloat.sub f (.finite s m e h) (.finite s m e h) = .zero .positive := by
  simp only [UnpackedFloat.sub, Int.sub_self]
  rfl

/-- Bits whose exponent is not all ones are those of a zero or of a finite number, of which nothing
is left. -/
theorem unpackedSub_self {b : BitVec Format.binary64.numBits}
    (h : b.toNat / 2 ^ 52 % 2 ^ 11 ≠ 2047) :
    UnpackedFloat.sub Format.binary64 (unpack _ b) (unpack _ b) = .zero .positive := by
  have hones : ¬ unpackExponent b = -1#_ := by
    intro hones
    refine h ?_
    rw [← toNat_unpackExponent, hones]
    rfl
  unfold Float.Model.UnpackedFloat.unpack
  dsimp only
  rw [if_neg hones]
  split
  · split
    · exact unpackedSub_zero _ _
    · exact unpackedSub_finite _ _ _ _ _
  · exact unpackedSub_finite _ _ _ _ _

/-- Bits that decode to a finite number have no exponent of ones. -/
theorem exponent_ne_of_finite {bits : UInt64} {negative : Bool} {m : Nat} {e : Int}
    (h : decodeBits bits = .finite negative m e) : bits.toNat / 2 ^ 52 % 2 ^ 11 ≠ 2047 := by
  intro hones
  have hones : bits.toNat / 2 ^ 52 % 2048 = 2047 := hones
  simp only [decodeBits, Nat.one_shiftLeft, if_pos hones] at h
  split at h
  · cases h
  · cases h

theorem sub_self_of_finite {x : Float} {negative : Bool} {m : Nat} {e : Int}
    (h : decode x = .finite negative m e) : (x - x == 0) = true := by
  let b : BitVec Format.binary64.numBits := x.toBits.toBitVec
  have hzero : UnpackedFloat.sub Format.binary64 (unpack _ b) (unpack _ b) = .zero .positive :=
    unpackedSub_self (exponent_ne_of_finite h)
  have hsub : x - x = Float.ofModel (Float.Model.pack (.zero .positive)) :=
    congrArg (fun u => Float.ofModel (Float.Model.pack u)) hzero
  rw [hsub]
  decide

/-! ## Floats without a fraction -/

/-- The float is finite and has no fractional part. -/
def Whole (x : Float) : Prop :=
  ∃ negative m e, decode x = .finite negative m e ∧ (scaled m e).1 % (scaled m e).2 = 0

/-- Cutting off the fraction of a whole float leaves it as it is. -/
theorem truncate_of_whole {x : Float} (h : Whole x) : truncate x = x := by
  obtain ⟨negative, m, e, hdecode, hwhole⟩ := h
  unfold truncate
  rw [hdecode]
  exact if_pos hwhole

theorem fraction_of_whole {x : Float} (h : Whole x) : (fraction x != 0) = false := by
  obtain ⟨negative, m, e, hdecode, -⟩ := id h
  rw [fraction, truncate_of_whole h, bne, sub_self_of_finite hdecode]
  rfl

/-! ## Whole numbers as floats -/

/-- The bits of a normal number are read back. -/
theorem decode_ofMagnitude (negative : Bool) {biased fraction : Nat} (hpos : 0 < biased)
    (hlt : biased < 2047) (hfraction : fraction < 2 ^ 52) :
    decode (ofMagnitude negative (biased * 2 ^ 52 + fraction))
      = .finite negative (fraction + 2 ^ 52) ((biased : Int) - 1075) := by
  have hbits := @toBits_ofMagnitude negative (biased * 2 ^ 52 + fraction) (by omega)
  rw [decode, decodeBits, hbits]
  simp only [Nat.one_shiftLeft]
  have hexponent : (if negative = true then 2 ^ 63 + (biased * 2 ^ 52 + fraction)
      else biased * 2 ^ 52 + fraction) / 2 ^ 52 % 2048 = biased := by
    split <;> omega
  have hmantissa : (if negative = true then 2 ^ 63 + (biased * 2 ^ 52 + fraction)
      else biased * 2 ^ 52 + fraction) % 2 ^ 52 = fraction := by
    split <;> omega
  have hsign : ((if negative = true then 2 ^ 63 + (biased * 2 ^ 52 + fraction)
      else biased * 2 ^ 52 + fraction) / 2 ^ 63 == 1) = negative := by
    cases negative with
    | true =>
      rw [if_pos rfl, beq_iff_eq]
      omega
    | false =>
      rw [if_neg Bool.false_ne_true, beq_eq_false_iff_ne]
      omega
  rw [hexponent, hmantissa, hsign, if_neg (by omega), if_neg (by omega)]

/-- A number with an exponent that is not negative has no fraction. -/
theorem scaled_whole (m : Nat) {e : Int} (h : 0 ≤ e) : (scaled m e).1 % (scaled m e).2 = 0 := by
  have hden : (scaled m e).2 = 1 := by
    rw [scaled, timesPower, if_pos h]
  rw [hden, Nat.mod_one]

/-- Whole numbers of few enough bits have an exponent that floats have. -/
theorem leadingExponent_lt_of_whole {n k : Nat} (hpos : 0 < n) (hlt : n < 2 ^ k) :
    leadingExponent n 1 < (k : Int) - 52 := by
  refine leadingExponent_lt hpos one_pos ?_
  rw [Nat.cast_one, div_one, Int.sub_add_cancel, zpow_natCast]
  exact_mod_cast hlt

/-- Without bits behind the point, nothing is rounded. -/
theorem mantissa_of_nonpos {n : Nat} (hpos : 0 < n) (h : leadingExponent n 1 ≤ 0) :
    let parts := shifted n 1 (leadingExponent n 1)
    nearestWhole .even parts.1 parts.2 = n * 2 ^ (-leadingExponent n 1).toNat ∧
      nearestWhole .even parts.1 parts.2 < 2 ^ 53 := by
  intro parts
  have hparts : parts = (n * 2 ^ (-leadingExponent n 1).toNat, 1) := by
    show timesPower 2 n 1 (-leadingExponent n 1) = _
    rw [timesPower, if_pos (by omega), Nat.pow_eq]
  have hhigh : parts.1 / parts.2 < 2 ^ 53 :=
    (shifted_lt_iff n one_pos _ 53).mpr (leadingExponent_bounds hpos one_pos).2
  have hexact : nearestWhole .even parts.1 parts.2 = parts.1 / parts.2 := by
    rw [hparts, nearestWhole]
    dsimp only
    rw [Nat.mod_one, if_pos (by omega)]
  rw [hexact]
  refine ⟨?_, hhigh⟩
  rw [hparts, Nat.div_one]

/-- A whole number that floats reach is rounded to the bits of a whole number. -/
theorem nearestMagnitude_whole {n k : Nat} (hpos : 0 < n) (hlt : n < 2 ^ k) (hk : k ≤ 1023) :
    ∃ biased fraction, nearestMagnitude n 1 = biased * 2 ^ 52 + fraction ∧
      0 < biased ∧ biased < 2047 ∧ fraction < 2 ^ 52 ∧
      (scaled (fraction + 2 ^ 52) ((biased : Int) - 1075)).1
        % (scaled (fraction + 2 ^ 52) ((biased : Int) - 1075)).2 = 0 := by
  have hleast := leadingExponent_ge hpos
  have hmost := leadingExponent_lt_of_whole hpos hlt
  obtain ⟨hlow, hhigh⟩ := mantissa_bounds hpos
  have hexact := mantissa_of_nonpos hpos
  have hexponent : max (leadingExponent n 1) (-1074) = leadingExponent n 1 := by omega
  unfold nearestMagnitude
  rw [if_neg (by omega)]
  simp only [Nat.one_shiftLeft, hexponent]
  dsimp only at hexact
  generalize leadingExponent n 1 = e at *
  generalize nearestWhole .even (shifted n 1 e).1 (shifted n 1 e).2 = mantissa at *
  rw [if_neg (by omega), min_eq_left (by omega)]
  by_cases hcarry : mantissa = 2 ^ 53
  · -- only bits that were behind the point can have been rounded up
    have he : 0 < e := by
      by_contra he
      have := (hexact (by omega)).2
      omega
    refine ⟨(e + 1075).toNat + 1, 0, by omega, by omega, by omega, by omega, ?_⟩
    exact scaled_whole _ (by omega)
  · have hbiased : ((e + 1075).toNat : Int) - 1075 = e := by omega
    refine ⟨(e + 1075).toNat, mantissa - 2 ^ 52, rfl, by omega, by omega, by omega, ?_⟩
    rw [hbiased, Nat.sub_add_cancel hlow]
    rcases Int.lt_or_le e 0 with he | he
    · -- the bits behind the point are the zeros that were put there
      rw [(hexact he.le).1, scaled, timesPower, if_neg (by omega), Nat.pow_eq, Nat.one_mul]
      exact Nat.mul_mod_left _ _
    · exact scaled_whole mantissa he

/-- A whole number within the range of floats is whole as a float too. -/
theorem whole_ofInt {i : Int} {k : Nat} (h : i.natAbs < 2 ^ k) (hk : k ≤ 1023) :
    Whole (ofInt i) := by
  rcases Nat.eq_zero_or_pos i.natAbs with hzero | hpos
  · obtain rfl := Int.natAbs_eq_zero.mp hzero
    refine ⟨false, 0, -1074, by decide, ?_⟩
    have hnum : (scaled 0 (-1074)).1 = 0 := by
      rw [scaled, timesPower, if_neg (by decide)]
    rw [hnum, Nat.zero_mod]
  · obtain ⟨biased, fraction, hmagnitude, hbiased, hmost, hfraction, hwhole⟩ :=
      nearestMagnitude_whole hpos h hk
    have hbits : ofInt i = ofMagnitude (decide (i < 0)) (biased * 2 ^ 52 + fraction) := by
      rw [ofInt, ofRatio, hmagnitude]
    refine ⟨decide (i < 0), fraction + 2 ^ 52, (biased : Int) - 1075, ?_, hwhole⟩
    rw [hbits]
    exact decode_ofMagnitude _ hbiased hmost hfraction

/-! ## Numbers that are not negative -/

/-- What is above zero is not below it. -/
theorem unpackedLt_asymm {u : UnpackedFloat}
    (h : UnpackedFloat.lt (.zero .positive) u = true) :
    ¬ UnpackedFloat.lt u (.zero .positive) = true := by
  cases u with
  | notANumber => cases h
  | zero s => cases h
  | infinity s =>
    cases s with
    | positive => exact Bool.false_ne_true
    | negative => cases h
  | finite s m e hm =>
    cases s with
    | positive => exact Bool.false_ne_true
    | negative => cases h

theorem not_neg_of_pos {x : Float} (h : 0 < x) : ¬ x < 0 := by
  let b : BitVec Format.binary64.numBits := x.toBits.toBitVec
  have hpos : 0 < x ↔ UnpackedFloat.lt (.zero .positive) (unpack Format.binary64 b) = true :=
    decide_eq_true_iff
  have hneg : x < 0 ↔ UnpackedFloat.lt (unpack Format.binary64 b) (.zero .positive) = true :=
    decide_eq_true_iff
  rw [hneg]
  exact unpackedLt_asymm (hpos.mp h)

/-- The float of an integer that is not negative is not negative either. -/
theorem not_ofInt_neg {i : Int} (h : 0 ≤ i) : ¬ ofInt i < 0 := by
  rcases h.eq_or_lt with rfl | hpos
  · decide
  · exact not_neg_of_pos (ofInt_pos_iff.mpr hpos)

end RowSignals.Number
