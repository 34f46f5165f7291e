import Mathlib
import RowSignals.Number.Binary64

/-!
# Floats and their bits

A finite float is a mantissa and an exponent in one way only, and its bits can be put
together from the two again.

* `Canonical`: the pairs of mantissa and exponent that are read off the bits of a float.
* `magnitude`: the bits of such a pair, without the sign.
* `ofMagnitude_magnitude`: a float is made of its own magnitude.
-/

namespace RowSignals.Number

open Float.Model (Format)
open Float.Model.UnpackedFloat (Sign packComponents unpackSign unpackExponent unpackMantissa
  pack unpack)

/-! ## Packing what was unpacked -/

theorem sign_toBitVec_ofBitVec (b : BitVec 1) : (Sign.ofBitVec b).toBitVec = b := by
  revert b
  decide

/-- Bits are made of their three components. -/
theorem packComponents_unpack {f : Format} (b : BitVec f.numBits) :
    packComponents f (Sign.ofBitVec (unpackSign b)) (unpackExponent b) (unpackMantissa b)
      = b := by
  have hm := f.hm
  have he := f.he
  rw [packComponents, sign_toBitVec_ofBitVec]
  -- Each bit is in one of the three components, at its distance from where that starts.
  ext i hi
  rw [BitVec.getElem_append]
  split
  · simp [unpackMantissa, BitVec.getLsbD_eq_getElem hi]
  · rw [BitVec.getElem_append]
    split
    · have hplace : f.mantissaBitsWithoutImplicit + (i - f.mantissaBitsWithoutImplicit) = i := by
        omega
      simp [unpackExponent, hplace, BitVec.getLsbD_eq_getElem hi]
    · have hplace : f.mantissaBitsWithoutImplicit + f.exponentBits
          + (i - f.mantissaBitsWithoutImplicit - f.exponentBits) = i := by
        omega
      simp [unpackSign, hplace, BitVec.getLsbD_eq_getElem hi]

theorem toNat_implicit_append {w : Nat} (v : BitVec w) :
    (1#1 ++ v).toNat = 2 ^ w + v.toNat := by
  rw [BitVec.toNat_append, ← Nat.shiftLeft_add_eq_or_of_lt v.isLt]
  simp [Nat.shiftLeft_eq]

theorem log2_implicit_append {w : Nat} (v : BitVec w) : (1#1 ++ v).toNat.log2 = w := by
  have hv := v.isLt
  rw [toNat_implicit_append, Nat.log2_eq_iff (by omega), Nat.pow_succ]
  omega

/-- Packing a finite number whose exponent is in range and whose mantissa is not above its
width. -/
theorem pack_finite {f : Format} (s : Sign) {m : Nat} {e : Int} (hm : 0 < m) (biased : Nat)
    (he : e + f.exponentBias + f.mantissaBitsWithoutImplicit = biased)
    (hbiased : biased + 1 < 2 ^ f.exponentBits) :
    pack f (.finite s m e hm)
      = packComponents f s (if m.log2 = f.mantissaBitsWithoutImplicit then .ofNat _ biased else 0)
          (.ofNat _ m) := by
  have htoNat : (e + f.exponentBias + f.mantissaBitsWithoutImplicit).toNat = biased := by omega
  unfold Float.Model.UnpackedFloat.pack
  dsimp only
  rw [htoNat, if_neg (by omega), Format.mantissaBits]
  by_cases hlog : m.log2 = f.mantissaBitsWithoutImplicit
  · rw [if_pos (by omega), if_pos hlog]
  · rw [if_neg (by omega), if_neg hlog]
    rfl

/-- Valid bits come back when they are packed again after they were unpacked. -/
theorem pack_unpack {f : Format} (hf : 1 < f.exponentBits) {b : BitVec f.numBits}
    (h : f.Valid b) : pack f (unpack f b) = b := by
  have hparts := packComponents_unpack b
  have hpow : 2 ^ 2 ≤ 2 ^ f.exponentBits := Nat.pow_le_pow_right (by omega) hf
  unfold Float.Model.UnpackedFloat.unpack
  dsimp only
  by_cases hones : unpackExponent b = -1#f.exponentBits
  · -- an infinity, or not a number, which valid bits encode in one way only
    rw [if_pos hones]
    by_cases hmant : unpackMantissa b = 0#f.mantissaBitsWithoutImplicit
    · rw [if_pos hmant]
      rw [hones, hmant] at hparts
      exact hparts
    · rw [if_neg hmant]
      exact (h.eq_packedNaN hones hmant).symm
  · rw [if_neg hones]
    by_cases hzeros : unpackExponent b = 0#f.exponentBits
    · -- zero, or a mantissa that is too short for the implicit bit
      rw [if_pos hzeros]
      by_cases hmant : unpackMantissa b = 0#f.mantissaBitsWithoutImplicit
      · rw [dif_pos hmant]
        rw [hzeros, hmant] at hparts
        exact hparts
      · rw [dif_neg hmant]
        have hlog : (unpackMantissa b).toNat.log2 ≠ f.mantissaBitsWithoutImplicit := by
          have hlt := (unpackMantissa b).isLt
          have hne : (unpackMantissa b).toNat ≠ 0 := by
            intro heq
            exact hmant (BitVec.eq_of_toNat_eq heq)
          exact Nat.ne_of_lt ((Nat.log2_lt hne).mpr hlt)
        rw [pack_finite _ _ 1 (by rw [hzeros, BitVec.toNat_zero]; omega) (by omega), if_neg hlog,
          BitVec.ofNat_toNat, BitVec.setWidth_eq]
        rw [hzeros] at hparts
        exact hparts
    · -- the implicit bit is put in front of the mantissa, and cut off again
      rw [if_neg hzeros]
      have hlt : (unpackExponent b).toNat + 1 < 2 ^ f.exponentBits := by
        have hlt := (unpackExponent b).isLt
        have hne : (unpackExponent b).toNat ≠ 2 ^ f.exponentBits - 1 := by
          intro heq
          refine hones (BitVec.eq_of_toNat_eq ?_)
          rw [heq, BitVec.neg_one_eq_allOnes, BitVec.toNat_allOnes]
        omega
      have hmant : BitVec.ofNat f.mantissaBitsWithoutImplicit (1#1 ++ unpackMantissa b).toNat
          = unpackMantissa b := by
        refine BitVec.eq_of_toNat_eq ?_
        rw [BitVec.toNat_ofNat, toNat_implicit_append, Nat.add_mod_left,
          Nat.mod_eq_of_lt (unpackMantissa b).isLt]
      rw [pack_finite _ _ (unpackExponent b).toNat (by omega) hlt,
        if_pos (log2_implicit_append _), hmant, BitVec.ofNat_toNat, BitVec.setWidth_eq]
      exact hparts

/-- A float is made of its own bits. -/
theorem ofBits_toBits (x : Float) : Float.ofBits x.toBits = x := by
  obtain ⟨bits, hvalid⟩ := x
  have h : pack Format.binary64 (unpack Format.binary64 bits.toBitVec) = bits.toBitVec :=
    pack_unpack (by decide) hvalid
  show Float.ofModel (Float.Model.pack (unpack Format.binary64 bits.toBitVec)) = _
  simp only [Float.Model.pack, h]

/-! ## Mantissas and exponents -/

/-- A mantissa and an exponent as the bits of a finite float hold them: the mantissa has 53
bits, or fewer at the least exponent. -/
structure Canonical (m : Nat) (e : Int) : Prop where
  mantissa_lt : m < 2 ^ 53
  exponent_ge : -1074 ≤ e
  exponent_le : e ≤ 971
  mantissa_ge : -1074 < e → 2 ^ 52 ≤ m

/-- The bits, without sign, of the float with a canonical mantissa and exponent. -/
def magnitude (m : Nat) (e : Int) : Nat :=
  if m < 2 ^ 52 then m else (e + 1075).toNat * 2 ^ 52 + (m - 2 ^ 52)

/-- Finite bits without a sign decode to a canonical pair, and their number is the magnitude of
the pair. -/
theorem decodeBits_finite {bits : UInt64} {m : Nat} {e : Int}
    (h : decodeBits bits = .finite false m e) :
    Canonical m e ∧ bits.toNat = magnitude m e := by
  have hlt : bits.toNat < 2 ^ 64 := bits.toNat_lt
  simp only [decodeBits, Nat.one_shiftLeft] at h
  generalize bits.toNat = n at *
  split at h
  · split at h <;> cases h
  · split at h
    · rename_i hzero
      obtain ⟨hsign, rfl, rfl⟩ := Decoded.finite.inj h
      have hsign := beq_eq_false_iff_ne.mp hsign
      refine ⟨⟨by omega, by omega, by omega, by omega⟩, ?_⟩
      rw [magnitude, if_pos (by omega)]
      omega
    · rename_i hones hzero
      obtain ⟨hsign, rfl, rfl⟩ := Decoded.finite.inj h
      have hsign := beq_eq_false_iff_ne.mp hsign
      refine ⟨⟨by omega, by omega, by omega, by omega⟩, ?_⟩
      rw [magnitude, if_neg (by omega)]
      omega

/-- A finite float without a sign decodes to a canonical pair. -/
theorem canonical_of_decode {x : Float} {m : Nat} {e : Int} (h : decode x = .finite false m e) :
    Canonical m e :=
  (decodeBits_finite h).1

/-- A float is made of its own magnitude. -/
theorem ofMagnitude_magnitude {x : Float} {m : Nat} {e : Int}
    (h : decode x = .finite false m e) : ofMagnitude false (magnitude m e) = x := by
  rw [ofMagnitude, if_neg Bool.false_ne_true, ← (decodeBits_finite h).2, UInt64.ofNat_toNat,
    ofBits_toBits]

end RowSignals.Number
