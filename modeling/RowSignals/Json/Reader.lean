import RowSignals.Json.Basic
import RowSignals.Number.Reading

/-!
# Reading JSON

`Json.read?` reads a whole text. Blanks are the four of the format, a control character inside a
string is an error, and so are lone surrogates. Values nest up to 127 deep.

A number without point and exponent that fits 64 bits is whole. Every other number is a float
made from its first digits that fit 64 unsigned bits: they are scaled by one power of ten
(several, for a tiny number), so that the result may differ from the nearest float in its last
bit.

* `readNumber`: the number rule.
* `readText`: strings with their escapes.
* `readValue`, `readItems`, `readMembers`: values, with a bound on the remaining steps and on
  the depth.
* `read?`: a whole text.

The readers of values call each other, with fuel as the measure. An array or an object spends
one step on itself and one on each of its parts, and takes a character for each of them, so that
twice the length of the text is fuel enough.
-/

namespace RowSignals.Json

/-- A text without the blanks at its front. -/
def skipBlanks (cs : List Char) : List Char :=
  cs.dropWhile fun c => c == ' ' || c == '\n' || c == '\t' || c == '\r'

/-! ## Numbers -/

/-- The digits that fit 64 bits, read after `n`; how many were read; the rest of the text, which
starts with the first digit that did not fit if there was one. -/
def readFitting (n count : Nat) : List Char → Nat × Nat × List Char
  | [] => (n, count, [])
  | c :: rest =>
    if c.isDigit then
      let more := 10 * n + RowSignals.Number.digitValue c
      if more < 1 <<< 64 then readFitting more (count + 1) rest else (n, count, c :: rest)
    else (n, count, c :: rest)

/-- `significand * 10 ^ exponent`, scaled by one power of ten at a time; none when it is
infinite. `fuel` bounds the number of steps down. -/
def scale (fuel : Nat) (f : Float) (exponent : Int) : Option Float :=
  let power (n : Nat) : Float := RowSignals.Number.ofRatio false (Nat.pow 10 n) 1
  if exponent.natAbs ≤ 308 then
    if 0 ≤ exponent then
      let product := f * power exponent.natAbs
      if product.isFinite then some product else none
    else some (f / power exponent.natAbs)
  -- too many places for one power: zero stays zero, and too large a number is none
  else if f == 0 then some f
  else if 0 < exponent then none
  else match fuel with
    | 0 => some 0
    | fuel + 1 => scale fuel (f / power 308) (exponent + 308)

/-- The float of a sign, a significand and a decimal exponent. -/
def floatOf (negative : Bool) (significand : Nat) (exponent : Int) : Option Number :=
  (scale 4 (RowSignals.Number.ofInt significand) exponent).map fun f =>
    .float (if negative then -f else f)

/-- The exponent of a number, after its `e`. One beyond 31 bits makes the number zero or an
error. -/
def readPower (negative : Bool) (significand : Nat) (exponent : Int) (cs : List Char) :
    Option (Number × List Char) :=
  let (down, digits) := RowSignals.Number.splitSign cs
  let (power, rest) := RowSignals.Number.spanDigits digits
  if power.isEmpty then none
  else
    let n := RowSignals.Number.digitsValue power
    if 1 <<< 31 ≤ n then
      if significand ≠ 0 && !down then none
      else some (.float (if negative then -0.0 else 0.0), rest)
    else
      (floatOf negative significand (if down then exponent - n else exponent + n)).map (·, rest)

/-- What follows the digits of a number: an exponent, or nothing. -/
def readTail (negative : Bool) (significand : Nat) (exponent : Int) :
    List Char → Option (Number × List Char)
  | 'e' :: rest | 'E' :: rest => readPower negative significand exponent rest
  | rest => (floatOf negative significand exponent).map (·, rest)

/-- The places of a number, after its point. -/
def readPlaces (negative : Bool) (significand : Nat) (exponent : Int) (cs : List Char) :
    Option (Number × List Char) :=
  let (n, count, rest) := readFitting significand 0 cs
  -- places that do not fit are below the precision of the result and are dropped
  if rest.head?.any Char.isDigit then
    readTail negative n (exponent - count) (rest.dropWhile Char.isDigit)
  else if count = 0 then none
  else readTail negative n (exponent - count) rest

/-- A number without its sign. -/
def readMagnitude (negative : Bool) : List Char → Option (Number × List Char)
  | '0' :: d :: rest =>
    if d.isDigit then none
    else whole 0 (d :: rest)
  | '0' :: [] => whole 0 []
  | c :: rest =>
    if c.isDigit then
      let (n, _, rest) := readFitting 0 0 (c :: rest)
      -- digits that do not fit are dropped, too, but each of them counts for a factor of ten
      if rest.head?.any Char.isDigit then
        let (dropped, rest) := RowSignals.Number.spanDigits rest
        match rest with
        | '.' :: rest => readPlaces negative n dropped.length rest
        | rest => readTail negative n dropped.length rest
      else whole n rest
    else none
  | [] => none
where
  /-- A number whose digits before the point all fit 64 bits. -/
  whole (n : Nat) : List Char → Option (Number × List Char)
    | '.' :: rest => readPlaces negative n 0 rest
    | 'e' :: rest | 'E' :: rest => readPower negative n 0 rest
    | rest =>
      if !negative then some (.int n, rest)
      -- negative zero is no whole number, and the signed range ends at `-(2 ^ 63)`
      else if n = 0 ∨ 1 <<< 63 < n then some (.float (-(RowSignals.Number.ofInt n)), rest)
      else some (.int (-n), rest)

/-- A number. -/
def readNumber : List Char → Option (Number × List Char)
  | '-' :: rest => readMagnitude true rest
  | rest => readMagnitude false rest

/-! ## Strings -/

/-- The value of a hexadecimal digit. -/
def hexValue? (c : Char) : Option Nat :=
  if c.isDigit then some (c.toNat - 48)
  else if 'a' ≤ c && c ≤ 'f' then some (c.toNat - 87)
  else if 'A' ≤ c && c ≤ 'F' then some (c.toNat - 55)
  else none

/-- Four hexadecimal digits. -/
def readHex4 : List Char → Option (Nat × List Char)
  | a :: b :: c :: d :: rest => do
    let a ← hexValue? a
    let b ← hexValue? b
    let c ← hexValue? c
    let d ← hexValue? d
    pure (((a * 16 + b) * 16 + c) * 16 + d, rest)
  | _ => none

/-- The character of an escape by number, after its `u`: one unit, or a surrogate pair. -/
def readUnit (cs : List Char) : Option (Char × List Char) := do
  let (first, rest) ← readHex4 cs
  if 0xDC00 ≤ first ∧ first ≤ 0xDFFF then none
  else if 0xD800 ≤ first ∧ first ≤ 0xDBFF then
    match rest with
    | '\\' :: 'u' :: rest =>
      let (second, rest) ← readHex4 rest
      if 0xDC00 ≤ second ∧ second ≤ 0xDFFF then
        pure (Char.ofNat (0x10000 + (first - 0xD800) * 0x400 + (second - 0xDC00)), rest)
      else none
    | _ => none
  else pure (Char.ofNat first, rest)

/-- The character of an escape, after its backslash. -/
def readEscape : List Char → Option (Char × List Char)
  | '"' :: rest => some ('"', rest)
  | '\\' :: rest => some ('\\', rest)
  | '/' :: rest => some ('/', rest)
  | 'b' :: rest => some ('\x08', rest)
  | 'f' :: rest => some ('\x0c', rest)
  | 'n' :: rest => some ('\n', rest)
  | 'r' :: rest => some ('\r', rest)
  | 't' :: rest => some ('\t', rest)
  | 'u' :: rest => readUnit rest
  | _ => none

/-- The text of a string, after its opening quote; `read` holds the characters so far, last one
first. -/
def readText (fuel : Nat) (read : List Char) (cs : List Char) : Option (String × List Char) :=
  match fuel, cs with
  | _, '"' :: rest => some (String.ofList read.reverse, rest)
  | fuel + 1, '\\' :: rest =>
    match readEscape rest with
    | some (c, rest) => readText fuel (c :: read) rest
    | none => none
  | fuel + 1, c :: rest => if c.toNat < 32 then none else readText fuel (c :: read) rest
  | _, _ => none

/-! ## Values -/

mutual

/-- A value. Each step spends fuel, and each array or object one level of depth. -/
def readValue (fuel depth : Nat) (cs : List Char) : Option (Json × List Char) :=
  match fuel with
  | 0 => none
  | fuel + 1 =>
    match skipBlanks cs with
    | 'n' :: 'u' :: 'l' :: 'l' :: rest => some (.null, rest)
    | 't' :: 'r' :: 'u' :: 'e' :: rest => some (.bool true, rest)
    | 'f' :: 'a' :: 'l' :: 's' :: 'e' :: rest => some (.bool false, rest)
    | '"' :: rest => (readText rest.length [] rest).map fun (s, rest) => (.string s, rest)
    | '[' :: rest =>
      match depth with
      | 0 => none
      | depth + 1 =>
        match skipBlanks rest with
        | ']' :: rest => some (.array [], rest)
        | rest => readItems fuel depth [] rest
    | '\x7b' :: rest =>
      match depth with
      | 0 => none
      | depth + 1 =>
        match skipBlanks rest with
        | '\x7d' :: rest => some (.object [], rest)
        | rest => readMembers fuel depth [] rest
    | rest => (readNumber rest).map fun (n, rest) => (.number n, rest)

/-- The items of an array up to its bracket; `read` holds those before, last one first. -/
def readItems (fuel depth : Nat) (read : List Json) (cs : List Char) :
    Option (Json × List Char) :=
  match fuel with
  | 0 => none
  | fuel + 1 =>
    match readValue fuel depth cs with
    | none => none
    | some (item, rest) =>
      match skipBlanks rest with
      | ',' :: rest => readItems fuel depth (item :: read) rest
      | ']' :: rest => some (.array (item :: read).reverse, rest)
      | _ => none

/-- The members of an object up to its brace; `read` holds those before. -/
def readMembers (fuel depth : Nat) (read : Members) (cs : List Char) :
    Option (Json × List Char) :=
  match fuel with
  | 0 => none
  | fuel + 1 =>
    match skipBlanks cs with
    | '"' :: rest =>
      match readText rest.length [] rest with
      | none => none
      | some (key, rest) =>
        match skipBlanks rest with
        | ':' :: rest =>
          match readValue fuel depth rest with
          | none => none
          | some (value, rest) =>
            match skipBlanks rest with
            | ',' :: rest => readMembers fuel depth (Members.insert key value read) rest
            | '\x7d' :: rest => some (.object (Members.insert key value read), rest)
            | _ => none
        | _ => none
    | _ => none

end

/-- The value that a text writes, blanks around it allowed. -/
def read? (text : String) : Option Json :=
  let cs := text.toList
  match readValue (2 * cs.length + 2) 127 cs with
  | some (value, rest) => if (skipBlanks rest).isEmpty then some value else none
  | none => none

end RowSignals.Json
