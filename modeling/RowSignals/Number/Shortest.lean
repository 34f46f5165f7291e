import RowSignals.Number.Binary64

/-!
# Shortest decimals

The shortest decimal that reads back as a given float. Every decimal in the interval of reals
that round to the float reads back as it; the ends belong to the interval when the mantissa is
even. For one, two, ... seventeen digits the search looks at the two neighbours of the value on
the grid of that many digits: the first grid with a hit wins, and of two hits the nearer one.

* `Interval`: the value and the ends of its interval, over one denominator.
* `Decimal`: digits and the place of the point.
* `decimalPoint`: the number of digits before the point, from which the grids are laid out.
* `gridHit`: the search on one grid.
* `shortest`: the search.

A grid of seventeen digits is always fine enough: it has a step of at most half the distance
between floats. So the search never comes back without a hit.
-/

namespace RowSignals.Number

/-- A positive value with the interval of reals that round to it, all three over the denominator
`den`. -/
structure Interval where
  low : Nat
  value : Nat
  high : Nat
  den : Nat
  closed : Bool
  deriving Repr

/-- The interval of `mantissa * 2 ^ exponent`. Below a power of two the floats are twice as
dense, so that the lower end is nearer there. -/
def Interval.of (mantissa : Nat) (exponent : Int) : Interval :=
  -- the lowest exponent has no exponent below it, so that its floats lie evenly
  let denser := mantissa = 1 <<< 52 ∧ -1074 < exponent
  -- the halves and quarters of the last place are counted in quarters
  let below := if denser then 1 else 2
  let (unit, den) := scaled 1 (exponent - 2)
  { low := (4 * mantissa - below) * unit
    value := 4 * mantissa * unit
    high := (4 * mantissa + 2) * unit
    den := den
    closed := mantissa % 2 = 0 }

/-- Whether `num / den` lies in the interval. -/
def Interval.contains (i : Interval) (num den : Nat) : Bool :=
  let scaledLow := i.low * den
  let scaledHigh := i.high * den
  let n := num * i.den
  if i.closed then scaledLow ≤ n && n ≤ scaledHigh else scaledLow < n && n < scaledHigh

/-- The decimal `0.d₁d₂… * 10 ^ point`. -/
structure Decimal where
  digits : List Nat
  point : Int
  deriving Repr, DecidableEq

/-- `num / den * 10 ^ e` as a numerator and a denominator. -/
def timesTenPower (num den : Nat) (e : Int) : Nat × Nat :=
  timesPower 10 num den e

/-- Whether `num / den < 10 ^ p`. -/
def belowTenPower (num den : Nat) (p : Int) : Bool :=
  let fraction := timesTenPower num den (-p)
  fraction.1 < fraction.2

/-- The least `p` with `num / den < 10 ^ p`. The bit lengths leave a handful of candidates. -/
def decimalPoint (num den : Nat) : Int :=
  -- `30103 / 100000` is a little more than the decimal logarithm of two
  let guess : Int := Int.fdiv (((num.log2 : Int) - den.log2 - 1) * 30103) 100000 - 1
  let candidates := (List.range 6).map fun (k : Nat) => guess + (k : Int)
  (candidates.find? (belowTenPower num den)).getD (guess + 6)

/-- The digits of a natural number, most significant first, without trailing zeros. -/
def significantDigits (n : Nat) : List Nat :=
  ((Nat.toDigits 10 n).map (fun c => c.toNat - 48)).reverse.dropWhile (· == 0) |>.reverse

/-- Whether `n * 10 ^ e` lies in the interval. -/
def Interval.containsDecimal (i : Interval) (n : Nat) (e : Int) : Bool :=
  let fraction := timesTenPower n 1 e
  i.contains fraction.1 fraction.2

/-- The neighbour of the value on the grid of `10 ^ (point - count)` that lies in the interval,
the nearer one of two. -/
def gridHit (i : Interval) (tie : Tie) (point : Int) (count : Nat) : Option Nat :=
  let fraction := timesTenPower i.value i.den (count - point)
  let below := fraction.1 / fraction.2
  -- the nearer neighbour may lie outside when the interval is shorter on its side
  [nearestWhole tie fraction.1 fraction.2, below, below + 1].find? fun n =>
    i.containsDecimal n (point - count)

/-- The shortest decimal that reads back as `mantissa * 2 ^ exponent`, for a positive
mantissa. -/
def shortest (tie : Tie) (mantissa : Nat) (exponent : Int) : Decimal :=
  let i := Interval.of mantissa exponent
  let point := decimalPoint i.value i.den
  let hit := (List.range 17).findSome? fun k =>
    (gridHit i tie point (k + 1)).map fun n => (k + 1, n)
  match hit with
  | some (count, n) =>
    -- a grid point may reach the next power of ten, which has one digit more
    { digits := significantDigits n
      point := if n = Nat.pow 10 count then point + 1 else point }
  | none => { digits := significantDigits i.value, point := point }

end RowSignals.Number
