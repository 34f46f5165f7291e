import RowSignals.Json.Basic
import RowSignals.Number.Layout
import RowSignals.Text.Quoted

/-!
# Writing JSON

The compact text of a value: no blanks, members in the order of their keys, characters beyond
ASCII as they are, control characters escaped. Since members are ordered, equal values have
equal texts, so that the text identifies the value: the identity of a query is a digest of it.

* `writeString`, `writeNumber`: the scalars.
* `Json.compact`: any value.
-/

namespace RowSignals.Json

/-- A character inside a JSON string. -/
def writeChar (c : Char) : String :=
  match c with
  | '"' => "\\\""
  | '\\' => "\\\\"
  | '\x08' => "\\b"
  | '\t' => "\\t"
  | '\n' => "\\n"
  | '\x0c' => "\\f"
  | '\r' => "\\r"
  | c =>
    if c.toNat < 16 then "\\u000" ++ Text.hex c.toNat
    else if c.toNat < 32 then "\\u00" ++ Text.hex c.toNat
    else String.ofList [c]

/-- A JSON string. -/
def writeString (s : String) : String :=
  "\"" ++ String.join (s.toList.map writeChar) ++ "\""

/-- A JSON number; a float that is not finite becomes null. -/
def writeNumber : Number → String
  | .int i => toString i
  | .float f => if f.isFinite then RowSignals.Number.format .json f else "null"

mutual

/-- The compact text of a value. -/
def compact : Json → String
  | .null => "null"
  | .bool true => "true"
  | .bool false => "false"
  | .number n => writeNumber n
  | .string s => writeString s
  | .array items => "[" ++ ",".intercalate (compactItems items) ++ "]"
  | .object members => "\x7b" ++ ",".intercalate (compactMembers members) ++ "\x7d"

/-- The compact texts of the items of an array. -/
def compactItems : List Json → List String
  | [] => []
  | item :: items => compact item :: compactItems items

/-- The compact texts of the members of an object. -/
def compactMembers : List (String × Json) → List String
  | [] => []
  | (key, value) :: members =>
    (writeString key ++ ":" ++ compact value) :: compactMembers members

end

end RowSignals.Json
