import RowSignals.Yaml.Node

/-!
# What plain scalars mean

A scalar without quotes may be null, a boolean or a number; anything else is a text. A number
with leading zeros is a text, too.

* `wholeNumber?`, `float?`: the numbers of plain scalars. A whole number has up to 128 bits
  here, but only one of up to 64 bits has a JSON value; a scalar in between is refused.
* `taggedJson?`: scalars whose tag says what they are.
* `Node.json?`: the JSON value of a node.
-/

namespace RowSignals.Yaml

/-- The value of digits in a base, in either case of letters. -/
def readBase? (base : Nat) (digits : List Char) : Option Nat :=
  if digits.isEmpty then none
  else digits.foldlM
    (fun n c => (Json.hexValue? c).bind fun d =>
      if d < base then some (base * n + d) else none) 0

/-- A whole number without sign, in decimal digits or after the sign of another base. -/
def magnitude? : List Char → Option Nat
  | '0' :: 'x' :: digits => readBase? 16 digits
  | '0' :: 'o' :: digits => readBase? 8 digits
  | '0' :: 'b' :: digits => readBase? 2 digits
  | digits => readBase? 10 digits

/-- Decimal digits with leading zeros, after an optional sign. -/
def hasLeadingZeros (cs : List Char) : Bool :=
  match (Number.splitSign cs).2 with
  | '0' :: d :: rest => (d :: rest).all Char.isDigit
  | _ => false

/-- A whole number with an optional sign, of up to 128 bits. -/
def wholeNumber? (cs : List Char) : Option Int :=
  if hasLeadingZeros cs then none
  else
    let (negative, digits) := Number.splitSign cs
    (magnitude? digits).bind fun n =>
      if negative then (if n ≤ 1 <<< 127 then some (-(n : Int)) else none)
      else if n < 1 <<< 128 then some (n : Int) else none

/-- A float: one of the names of infinity and of no number, or a decimal that is finite. -/
def float? (cs : List Char) : Option Float :=
  let (negative, digits) := Number.splitSign cs
  match String.ofList digits with
  | ".inf" | ".Inf" | ".INF" => some (Number.ofMagnitude negative (2047 * (1 <<< 52)))
  | ".nan" | ".NaN" | ".NAN" =>
    -- no number has no sign
    if cs.length = 4 then some (Float.ofBits 0x7FF8000000000000) else none
  | _ =>
    -- a second sign would be accepted by the reader of floats
    if digits.head?.any fun c => c == '+' || c == '-' then none
    else (Number.readFloat? cs).filter (·.isFinite)

/-- The JSON value of a whole number, which must fit 64 bits. -/
def wholeJson? (i : Int) : Option Json :=
  if -(1 <<< 63) ≤ i ∧ i < 1 <<< 64 then some (.ofInt i) else none

/-- The JSON value of a float; null if it is not finite. -/
def floatJson (f : Float) : Json :=
  if f.isFinite then .ofFloat f else .null

/-- A boolean. -/
def boolean? : String → Option Bool
  | "true" | "True" | "TRUE" => some true
  | "false" | "False" | "FALSE" => some false
  | _ => none

/-- Whether a plain scalar is null. -/
def isNullText : String → Bool
  | "" | "null" | "Null" | "NULL" | "~" => true
  | _ => false

/-- The JSON value of a plain scalar. -/
def plainJson? (text : String) : Option Json :=
  if isNullText text then some .null
  else
    match boolean? text with
    | some b => some (.bool b)
    | none =>
      match wholeNumber? text.toList with
      | some i => wholeJson? i
      | none =>
        if hasLeadingZeros text.toList then some (.string text)
        else
          match float? text.toList with
          | some f => some (floatJson f)
          | none => some (.string text)

/-- The JSON value of a scalar with a tag. -/
def taggedJson? (tag text : String) : Option Json :=
  match tag with
  | "tag:yaml.org,2002:bool" => (boolean? text).map .bool
  | "tag:yaml.org,2002:int" => (wholeNumber? text.toList).bind wholeJson?
  | "tag:yaml.org,2002:float" => (float? text.toList).map floatJson
  | "tag:yaml.org,2002:null" => if text != "" && isNullText text then some .null else none
  | tag => if tag.startsWith "!" then none else some (.string text)

/-- Whether a tag is one of the user's own. -/
def isOwnTag (tag : Option String) : Bool :=
  tag.any (·.startsWith "!")

namespace Node

/-- The text of a scalar, whatever it means. -/
def text? : Node → Option String
  | .scalar _ _ text => some text
  | _ => none

mutual

/-- The JSON value of a node. The keys of a mapping are scalars; of two equal ones the later
counts. Tags of one's own have no JSON value. -/
def json? : Node → Option Json
  | .scalar none true text => plainJson? text
  | .scalar none false text => some (.string text)
  | .scalar (some tag) _ text => taggedJson? tag text
  | .sequence tag items => if isOwnTag tag then none else (jsonItems? items).map .array
  | .mapping tag entries => if isOwnTag tag then none else (jsonMembers? entries).map .ofMembers

/-- The JSON values of the items of a sequence. -/
def jsonItems? : List Node → Option (List Json)
  | [] => some []
  | item :: items => do return (← item.json?) :: (← jsonItems? items)

/-- The JSON members of the entries of a mapping. -/
def jsonMembers? : List (Node × Node) → Option (List (String × Json))
  | [] => some []
  | (key, value) :: entries =>
    do return (← key.text?, ← value.json?) :: (← jsonMembers? entries)

end

end Node

end RowSignals.Yaml
