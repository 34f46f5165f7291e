import RowSignals.Proofs.Number.Bits
import RowSignals.Proofs.Number.Numeral

/-!
# Numbers without a sign

What is read from the text of a number without a sign is a float without a sign. It is never
"not a number", but a number that is too large for a float is infinite.

* `toBits_ofBits`: bits of floats stay as they are.
* `Unsigned`: the floats that are meant here.
* `readFloat?_unsigned`: what is read from a text that starts with a digit or a point.
-/

namespace RowSignals.Number

open Float.Model (Format)
open Float.Model.UnpackedFloat (unpackExponent unpackMantissa pack unpack)

/-! ## Bits of floats -/

/-- The exponent of the bits of a float: the eleven above the mantissa. -/
theorem toNat_unpackExponent (b : BitVec Format.binary64.numBits) :
    (unpackExponent b).toNat = b.toNat / 2 ^ 52 % 2 ^ 11 := by
  simp [unpackExponent, Nat.shiftRight_eq_div_pow]

/-- The mantissa of the bits of a float: the lowest 52. -/
theorem toNat_unpackMantissa (b : BitVec Format.binary64.numBits) :
    (unpackMantissa b).toNat = b.toNat % 2 ^ 52 := by
  simp [unpackMantissa]

/-- Bits up to those of the infinity, the sign apart, are those of a float: no mantissa stands
beside an exponent of ones. -/
theorem valid_of_le {b : BitVec Format.binary64.numBits} (h : b.toNat % 2 ^ 63 ≤ 2047 * 2 ^ 52) :
    Format.binary64.Valid b where
  eq_packedNaN hexponent hmantissa := by
    have hones : b.toNat / 2 ^ 52 % 2 ^ 11 = 2047 := by
      rw [← toNat_unpackExponent, hexponent]
      rfl
    refine absurd (BitVec.eq_of_toNat_eq ?_) hmantissa
    rw [toNat_unpackMantissa, BitVec.toNat_zero]
    omega

/-- Bits up to those of the infinity, the sign apart, are kept as they are by the float that
they make. -/
theorem toBits_ofBits {bits : UInt64} (h : bits.toNat % 2 ^ 63 ≤ 2047 * 2 ^ 52) :
    (Float.ofBits bits).toBits = bits := by
  have hbits : pack Format.binary64 (unpack Format.binary64 bits.toBitVec) = bits.toBitVec :=
    pack_unpack (by decide) (valid_of_le h)
  exact congrArg UInt64.ofBitVec hbits

/-- A float without a sign: a finite one, or the infinity that is no negative number. -/
def Unsigned (x : Float) : Prop :=
  (∃ m e, decode x = .finite false m e) ∨ decode x = .infinite false

/-- Bits up to those of the infinity, without the sign, decode to a finite number or to the
infinity. -/
theorem decodeBits_unsigned {bits : UInt64} (h : bits.toNat ≤ 2047 * 2 ^ 52) :
    (∃ m e, decodeBits bits = .finite false m e) ∨ decodeBits bits = .infinite false := by
  have hsign : (bits.toNat / 2 ^ 63 == 1) = false := by
    rw [beq_eq_false_iff_ne]
    omega
  simp only [decodeBits, Nat.one_shiftLeft, hsign]
  split
  · -- an exponent of ones leaves no room for a mantissa
    rw [if_pos (by omega)]
    exact .inr rfl
  · split
    · exact .inl ⟨_, _, rfl⟩
    · exact .inl ⟨_, _, rfl⟩

/-- A float made of such bits has no sign. -/
theorem unsigned_ofMagnitude {magnitude : Nat} (h : magnitude ≤ 2047 * 2 ^ 52) :
    Unsigned (ofMagnitude false magnitude) := by
  have hbits : (UInt64.ofNat magnitude).toNat = magnitude :=
    UInt64.toNat_ofNat_of_lt' (Nat.lt_of_le_of_lt h (by decide))
  rw [Unsigned, ofMagnitude, if_neg Bool.false_ne_true, decode, toBits_ofBits (by omega)]
  exact decodeBits_unsigned (by rwa [hbits])

/-! ## Reading without a sign -/

/-- Rounding a fraction never goes beyond the bits of the infinity. -/
theorem nearestMagnitude_le (num den : Nat) : nearestMagnitude num den ≤ 2047 * 2 ^ 52 := by
  unfold nearestMagnitude
  simp only [Nat.one_shiftLeft]
  split
  · exact Nat.zero_le _
  · split
    · omega
    · exact Nat.min_le_right _ _

/-- A decimal without a sign makes a float without one, whether it is zero, too large, too small
or in between. -/
theorem unsigned_ofDecimal (digits : List Char) (exponent : Int) :
    Unsigned (ofDecimal false digits exponent) := by
  have hratio (num den : Nat) : Unsigned (ofRatio false num den) :=
    unsigned_ofMagnitude (nearestMagnitude_le num den)
  unfold ofDecimal
  dsimp only
  split
  · exact unsigned_ofMagnitude (Nat.zero_le _)
  · split
    · exact unsigned_ofMagnitude (Nat.le_refl _)
    · split
      · exact unsigned_ofMagnitude (Nat.zero_le _)
      · split
        · exact hratio _ _
        · exact hratio _ _

/-- What is read as a decimal without a sign has none. -/
theorem readDecimal?_unsigned {cs : List Char} {x : Float} (h : readDecimal? false cs = some x) :
    Unsigned x := by
  unfold readDecimal? at h
  dsimp only at h
  split at h
  · cases h
  · obtain ⟨exponent, -, rfl⟩ := Option.map_eq_some_iff.mp h
    exact unsigned_ofDecimal _ _

/-- A text that starts with a digit or a point writes no sign, and no name of an infinity or of
"not a number". -/
theorem readFloat?_unsigned {c : Char} {cs : List Char} (hc : c.isDigit = true ∨ c = '.')
    {x : Float} (h : readFloat? (c :: cs) = some x) : Unsigned x := by
  rw [readFloat?_eq_readDecimal? cs hc] at h
  exact readDecimal?_unsigned h

end RowSignals.Number
