import RowSignals.Number.Binary64

/-!
# Rounding and remainder of floats

The operations on floats that are not basic ones of the processor, from the mantissa and
exponent of a float (`Number.decode`) where that makes them exact.

* `truncate`, `fraction`: a float without its fractional part, and that part. Both are exact,
  since they need no more bits than the float has.
* `roundHalfEven`: the nearest whole number, a half to the even one.
* `remainder`: the exact remainder of a division that truncates, which also fits a float.
* `tenPower`: a power of ten by repeated squaring. It is not exact beyond `1e22`, and the order
  of its multiplications decides what it is.
-/

namespace RowSignals.Number

/-- A float without its fractional part. A whole float stays as it is, and so does one that is
not finite. -/
def truncate (x : Float) : Float :=
  match decode x with
  | .finite negative mantissa exponent =>
    let (num, den) := scaled mantissa exponent
    if num % den = 0 then x else ofRatio negative (num / den) 1
  | _ => x

/-- The fractional part of a float, with the sign of the float. -/
def fraction (x : Float) : Float :=
  x - truncate x

/-- The nearest whole number, a half to the even one. Adding `2 ^ 52` to a smaller magnitude
leaves no bit for a fraction, so that sum is already rounded; the sign is put back to keep a
negative zero. -/
def roundHalfEven (x : Float) : Float :=
  let shift : Float := 4503599627370496.0
  if x.abs < shift then
    let magnitude := (x.abs + shift) - shift
    match decode x with
    | .finite true _ _ => -magnitude
    | _ => magnitude
  else x

/-- The remainder of `x / y` when the quotient is truncated: it has the sign of `x` and is
exact. It is not a number when `x` is infinite or `y` is zero. -/
def remainder (x y : Float) : Float :=
  match decode x, decode y with
  | .finite negative m e, .finite _ n f =>
    if n = 0 then Float.ofBits 0x7FF8000000000000 else
    -- over the lower exponent both are whole numbers, whose remainder is exact
    let low := min e f
    let rest := (m * Nat.pow 2 (e - low).toNat) % (n * Nat.pow 2 (f - low).toNat)
    let (num, den) := scaled rest low
    ofRatio negative num den
  | .finite _ _ _, .infinite _ => x
  | _, _ => Float.ofBits 0x7FF8000000000000

/-- `r * base ^ n` by repeated squaring, taking the bits of `n` from the lowest; `fuel` bounds
their number. -/
def squarings (fuel : Nat) (base r : Float) (n : Nat) : Float :=
  match fuel with
  | 0 => r
  | fuel + 1 =>
    let r := if n % 2 = 1 then r * base else r
    -- the base is not squared after the last bit, where the square could be infinite
    if n / 2 = 0 then r else squarings fuel (base * base) r (n / 2)

/-- Ten to a whole power by repeated squaring; a negative power is the reciprocal of the
positive one. -/
def tenPower (exponent : Int) : Float :=
  let n := exponent.natAbs
  let power := squarings (n.log2 + 1) 10.0 1.0 n
  if exponent < 0 then 1.0 / power else power

end RowSignals.Number
