import RowSignals.Number.Shortest

/-!
# How a float is written

A shortest decimal is written positionally or with an exponent. Which one, and whether a whole
number keeps a decimal place, differs from place to place; each format is one record of these
decisions.

* `Layout`: the decisions.
* `Layout.plain`, `Layout.report`, `Layout.inspect`, `Layout.json`: the four formats of this
  library. Values, canonical expressions and messages are written in `report`, outlines in
  `inspect`, JSON texts in `json`.
* `positionalText`, `exponentText`: the two ways of writing a positive decimal.
* `format`: a float as text.

Negative zero keeps its sign in every format. The signs of the other numbers stand apart from
their digits, so that both ways of writing only know positive numbers.
-/

namespace RowSignals.Number

/-- The decisions of a number format. -/
structure Layout where
  /-- Whether a decimal with its point at the given place is written positionally. -/
  positional : Int → Bool
  /-- Whether a whole number written positionally ends in `.0`. -/
  keepsPlace : Bool
  tie : Tie
  nan : String

/-- Every number positional, whole numbers without a point. -/
def Layout.plain : Layout := ⟨fun _ => true, false, .up, "NaN"⟩

/-- Positional from `1e-4` up to `1e16`, whole numbers with one decimal place. -/
def Layout.report : Layout := ⟨fun p => -4 < p && p ≤ 16, true, .up, "nan"⟩

/-- Positional from `1e-5` up to `1e16`, whole numbers with one decimal place. -/
def Layout.inspect : Layout := ⟨fun p => -5 < p && p ≤ 16, true, .up, "NaN"⟩

/-- Positional from `1e-5` up to `1e16`, whole numbers with one decimal place, a tie to the even
digit. -/
def Layout.json : Layout := ⟨fun p => -5 < p && p ≤ 16, true, .even, "null"⟩

/-- A digit as a character. -/
def digitChar (d : Nat) : Char :=
  Nat.digitChar d

/-- A positive decimal without an exponent. -/
def positionalText (keepsPlace : Bool) (d : Decimal) : String :=
  let digits := d.digits.map digitChar
  let count : Int := digits.length
  if d.point ≤ 0 then
    "0." ++ String.ofList (List.replicate (-d.point).toNat '0' ++ digits)
  else if count ≤ d.point then
    String.ofList (digits ++ List.replicate (d.point - count).toNat '0') ++
      (if keepsPlace then ".0" else "")
  else
    String.ofList (digits.take d.point.toNat) ++ "." ++
      String.ofList (digits.drop d.point.toNat)

/-- A positive decimal with one digit before the point and an exponent. -/
def exponentText (d : Decimal) : String :=
  let digits := d.digits.map digitChar
  let mantissa := match digits with
    | [] => "0"
    | [first] => String.ofList [first]
    | first :: rest => String.ofList (first :: '.' :: rest)
  -- `point` counts from in front of the first digit, the exponent from behind it
  mantissa ++ "e" ++ toString (d.point - 1)

/-- A float as text. -/
def format (layout : Layout) (x : Float) : String :=
  match decode x with
  | .nan => layout.nan
  | .infinite negative => if negative then "-inf" else "inf"
  | .finite negative mantissa exponent =>
    let sign := if negative then "-" else ""
    if mantissa = 0 then sign ++ (if layout.keepsPlace then "0.0" else "0")
    else
      let d := shortest layout.tie mantissa exponent
      sign ++
        if layout.positional d.point then positionalText layout.keepsPlace d else exponentText d

/-- A float the way a configuration author expects to read it: whole numbers keep one decimal
place, huge and tiny numbers have an exponent. -/
def report (x : Float) : String :=
  format Layout.report x

end RowSignals.Number
