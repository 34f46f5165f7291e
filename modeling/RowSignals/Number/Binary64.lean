/-!
# Binary floating point, exactly

A finite 64-bit float is a whole number times a power of two. This module reads that pair off
the bits and finds the float nearest to a given fraction, both in exact arithmetic on natural
numbers. Whatever the other modules do with floats beyond adding, multiplying and dividing them
(reading, writing, cutting off and taking remainders) is defined here over that pair, so that it
can be computed with and reasoned about without the operations of the processor.

* `Decoded`, `decode`: what the bits of a float stand for.
* `timesPower`: a fraction times a power, as a fraction.
* `nearestMagnitude`: the bits of the float nearest to a fraction, a half going to the even
  neighbour.
* `ofInt`, `toInt?`: whole numbers to floats and back.
* `inInt64`: the range of 64-bit signed numbers, outside of which whole numbers become floats.

Powers of two are written as shifts, which evaluate at once.
-/

namespace RowSignals.Number

/-- What the bits of a 64-bit float stand for: not a number, an infinity, or `mantissa * 2 ^
exponent` with a sign. -/
inductive Decoded where
  | nan
  | infinite (negative : Bool)
  | finite (negative : Bool) (mantissa : Nat) (exponent : Int)
  deriving Repr, DecidableEq

/-- The number that 64 bits stand for. -/
def decodeBits (bits : UInt64) : Decoded :=
  let n := bits.toNat
  let negative := n / (1 <<< 63) == 1
  let exponent : Nat := n / (1 <<< 52) % 2048
  let fraction := n % (1 <<< 52)
  if exponent = 2047 then
    if fraction = 0 then .infinite negative else .nan
  -- the smallest floats have no implicit bit, and the exponent of the next larger ones
  else if exponent = 0 then .finite negative fraction (-1074)
  else .finite negative (fraction + (1 <<< 52)) ((exponent : Int) - 1075)

/-- The number that a float is. -/
def decode (x : Float) : Decoded :=
  decodeBits x.toBits

/-- `num / den * base ^ e` as a numerator and a denominator. -/
def timesPower (base num den : Nat) (e : Int) : Nat × Nat :=
  if 0 ≤ e then (num * Nat.pow base e.toNat, den) else (num, den * Nat.pow base (-e).toNat)

/-- A positive fraction stays positive: its numerator does. -/
theorem timesPower_num_pos {base num : Nat} (hb : 0 < base) (hn : 0 < num) (den : Nat)
    (e : Int) : 0 < (timesPower base num den e).1 := by
  unfold timesPower
  split
  · exact Nat.mul_pos hn (Nat.pow_pos hb)
  · exact hn

/-- A fraction stays a fraction: its denominator is not zero. -/
theorem timesPower_den_pos {base den : Nat} (hb : 0 < base) (num : Nat) (hd : 0 < den)
    (e : Int) : 0 < (timesPower base num den e).2 := by
  unfold timesPower
  split
  · exact hd
  · exact Nat.mul_pos hd (Nat.pow_pos hb)

/-- `mantissa * 2 ^ exponent` as a numerator and a denominator. -/
def scaled (mantissa : Nat) (exponent : Int) : Nat × Nat :=
  timesPower 2 mantissa 1 exponent

/-- Which of two equally near numbers is taken: the greater one, or the one with the even last
digit. -/
inductive Tie where
  | up
  | even
  deriving Repr, DecidableEq

/-- The whole number nearest to `num / den`. -/
def nearestWhole (tie : Tie) (num den : Nat) : Nat :=
  let below := num / den
  let twice := 2 * (num % den)
  if twice < den then below
  else if den < twice then below + 1
  else if tie = .up ∨ below % 2 = 1 then below + 1 else below

/-- `num / den / 2 ^ e` as a numerator and a denominator. -/
def shifted (num den : Nat) (e : Int) : Nat × Nat :=
  timesPower 2 num den (-e)

/-- The exponent that leaves 53 bits of a positive `num / den` before the point. The bit lengths
leave two candidates. -/
def leadingExponent (num den : Nat) : Int :=
  let guess : Int := (num.log2 : Int) - den.log2 - 52
  let fits := shifted num den guess
  if fits.1 / fits.2 < 1 <<< 52 then guess - 1 else guess

/-- The bits, without sign, of the float nearest to `num / den`. A fraction halfway between two
floats goes to the one with the even mantissa; one beyond the largest float goes to infinity. -/
def nearestMagnitude (num den : Nat) : Nat :=
  if num = 0 then 0 else
  let exponent := max (leadingExponent num den) (-1074)
  let mantissa := nearestWhole .even (shifted num den exponent).1 (shifted num den exponent).2
  -- rounding up to `2 ^ 53` carries into the exponent, which is the float that is meant
  if mantissa < 1 <<< 52 then mantissa
  else min ((exponent + 1075).toNat * (1 <<< 52) + (mantissa - (1 <<< 52))) (2047 * (1 <<< 52))

/-- A float from its sign and the bits of its magnitude. -/
def ofMagnitude (negative : Bool) (magnitude : Nat) : Float :=
  Float.ofBits (UInt64.ofNat (if negative then (1 <<< 63) + magnitude else magnitude))

/-- The float nearest to a fraction. -/
def ofRatio (negative : Bool) (num den : Nat) : Float :=
  ofMagnitude negative (nearestMagnitude num den)

/-- The float nearest to a whole number. -/
def ofInt (i : Int) : Float :=
  ofRatio (i < 0) i.natAbs 1

/-- The whole number that a float is, when it is one. -/
def toInt? (x : Float) : Option Int :=
  match decode x with
  | .finite negative mantissa exponent =>
    let (num, den) := scaled mantissa exponent
    if num % den = 0 then
      let magnitude : Int := num / den
      some (if negative then -magnitude else magnitude)
    else none
  | _ => none

/-- The smallest whole number of the 64-bit signed range. -/
def int64Min : Int := -(1 <<< 63)

/-- The largest whole number of the 64-bit signed range. -/
def int64Max : Int := (1 <<< 63) - 1

/-- Whether a whole number lies in the 64-bit signed range. -/
def inInt64 (i : Int) : Bool :=
  int64Min ≤ i && i ≤ int64Max

theorem inInt64_iff {i : Int} : inInt64 i = true ↔ int64Min ≤ i ∧ i ≤ int64Max := by
  simp [inInt64]

end RowSignals.Number
