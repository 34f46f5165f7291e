import RowSignals.Number.Binary64

/-!
# Reading numbers

* `readInt64?`: an optional sign and decimal digits, within the 64-bit signed range.
* `readFloat?`: a decimal with optional point and exponent, or the name of an infinity or of
  not-a-number, rounded to the nearest float.
* `ofDecimal`: the float nearest to digits and an exponent of ten.

A decimal is rounded once, from its exact value. Its exponent may have any number of digits,
though, and a power of ten with such an exponent cannot be written out. So the size of the
number decides first whether it lies beyond all floats, or nearer to zero than to the smallest
of them.
-/

namespace RowSignals.Number

/-- The value of a decimal digit. -/
def digitValue (c : Char) : Nat :=
  c.toNat - 48

/-- The number that a list of decimal digits writes, read after the number `n`. -/
def digitsValueFrom (n : Nat) (digits : List Char) : Nat :=
  digits.foldl (fun n c => 10 * n + digitValue c) n

/-- The number that a list of decimal digits writes. -/
def digitsValue (digits : List Char) : Nat :=
  digitsValueFrom 0 digits

/-- The digits at the front of a text, and what follows them. -/
def spanDigits (cs : List Char) : List Char × List Char :=
  cs.span Char.isDigit

/-- A leading sign, true for minus, and the text after it. -/
def splitSign : List Char → Bool × List Char
  | '-' :: rest => (true, rest)
  | '+' :: rest => (false, rest)
  | rest => (false, rest)

/-- A text of at least one character, all decimal digits, as a number. -/
def readNat? (cs : List Char) : Option Nat :=
  if !cs.isEmpty && cs.all Char.isDigit then some (digitsValue cs) else none

/-- A whole number with an optional sign, within the 64-bit signed range. -/
def readInt64? (cs : List Char) : Option Int :=
  let (negative, digits) := splitSign cs
  match readNat? digits with
  | some n =>
    let i : Int := if negative then -n else n
    if inInt64 i then some i else none
  | none => none

/-- The exponent at the end of a decimal: nothing, or `e` with an optional sign and digits. -/
def readExponent? : List Char → Option Int
  | [] => some 0
  | c :: rest =>
    if c = 'e' || c = 'E' then
      let (negative, digits) := splitSign rest
      (readNat? digits).map fun n => if negative then -(n : Int) else n
    else none

/-- The float nearest to `digits * 10 ^ exponent`. A number of more than 310 digits before the
point is infinite and one below `1e-340` is zero, whatever the exponent. -/
def ofDecimal (negative : Bool) (digits : List Char) (exponent : Int) : Float :=
  let significant := digits.dropWhile (· == '0')
  let size : Int := significant.length + exponent
  if significant.isEmpty then ofMagnitude negative 0
  -- the largest float has 309 digits, and half the smallest one is greater than `1e-324`
  else if 310 < size then ofMagnitude negative (2047 * (1 <<< 52))
  else if size < -340 then ofMagnitude negative 0
  else
    let n := digitsValue significant
    if 0 ≤ exponent then ofRatio negative (n * Nat.pow 10 exponent.toNat) 1
    else ofRatio negative n (Nat.pow 10 (-exponent).toNat)

/-- The digits after a point, if the text goes on with one. -/
def spanPlaces : List Char → List Char × List Char
  | '.' :: rest => spanDigits rest
  | rest => ([], rest)

/-- A decimal without sign: digits with an optional point, at least one digit, and an optional
exponent. -/
def readDecimal? (negative : Bool) (cs : List Char) : Option Float :=
  let (whole, rest) := spanDigits cs
  let (places, rest) := spanPlaces rest
  if whole.isEmpty && places.isEmpty then none
  else
    (readExponent? rest).map fun e => ofDecimal negative (whole ++ places) (e - places.length)

/-- A float from its text. -/
def readFloat? (cs : List Char) : Option Float :=
  let (negative, body) := splitSign cs
  match String.ofList (body.map Char.toLower) with
  | "inf" | "infinity" => some (ofMagnitude negative (2047 * (1 <<< 52)))
  | "nan" => some (Float.ofBits 0x7FF8000000000000)
  | _ => readDecimal? negative body

end RowSignals.Number
