import RowSignals.Calendar.Instant
import RowSignals.Json.Writer
import RowSignals.Number.Layout
import RowSignals.Number.Reading
import RowSignals.Text.Blank

/-!
# Row values

A `Value` is one cell of a result row, or a source computed from other cells. Numbers may arrive
as texts and flags as numbers, so that values convert loosely.

* `Value`: the value type; `Sources`: the named values of one row.
* `Value.display`, `Value.repr`: a value as plain text, and as it stands inside lists and
  messages.
* `Value.isTruthy`, `Value.toFloat?`, `Value.utc?`: conversions.
* `Value.ofJson`: the value of a JSON value, as scripted rows give it.

Whole numbers have 64 bits. `Value.ofWhole` is the one place where that is decided: a whole
number that does not fit becomes the nearest float. The words for null and flags, and the way
texts are quoted, are those that the authors of existing definitions know from their logs.
-/

namespace RowSignals

open Calendar (Instant)

/-- A single cell. -/
inductive Value where
  | null
  | bool (value : Bool)
  | int (value : Int)
  | float (value : Float)
  | str (value : String)
  | list (items : List Value)
  /-- A timestamp with its offset in seconds east of universal time. -/
  | zoned (instant : Instant) (offset : Int)
  /-- A timestamp without offset; it is universal time wherever time matters. -/
  | naive (clock : Instant)
  deriving Repr, Inhabited

/-- A value that is not a number. -/
structure NotNumeric where
  kind : String
  value : String
  deriving Repr, DecidableEq

/-- What a message says about a value that is not a number. -/
def NotNumeric.message (e : NotNumeric) : String :=
  "could not convert " ++ e.kind ++ " to a number: " ++ e.value

namespace Value

/-- The name of a value's type in messages. -/
def typeName : Value → String
  | .null => "none"
  | .bool _ => "bool"
  | .int _ => "int"
  | .float _ => "float"
  | .str _ => "str"
  | .list _ => "list"
  | .zoned _ _ => "datetime"
  | .naive _ => "datetime"

/-- Whether a value counts as true: zero, null and empty values do not. -/
def isTruthy : Value → Bool
  | .null => false
  | .bool b => b
  | .int i => i != 0
  | .float f => f != 0
  | .str s => s != ""
  | .list items => !items.isEmpty
  | .zoned _ _ => true
  | .naive _ => true

/-- Whether a value is a number or a flag. -/
def isNumeric : Value → Bool
  | .bool _ => true
  | .int _ => true
  | .float _ => true
  | _ => false

/-- A text between single quotes, with backslashes and single quotes escaped. -/
def quote (s : String) : String :=
  -- `\x27` is the single quote
  let escape (c : Char) : List Char := if c = '\\' || c = '\x27' then ['\\', c] else [c]
  "'" ++ String.ofList (s.toList.flatMap escape) ++ "'"

mutual

/-- A value as plain text. -/
def display : Value → String
  | .null => "None"
  | .bool true => "True"
  | .bool false => "False"
  | .int i => toString i
  | .float f => Number.report f
  | .str s => s
  | .list items => "[" ++ ", ".intercalate (reprs items) ++ "]"
  | .zoned instant offset =>
    (Instant.mk (instant.seconds + offset) instant.nanos).text ++ Calendar.offsetText offset
  | .naive clock => clock.text

/-- A value as it stands inside lists and messages: texts are quoted. -/
def repr : Value → String
  | .str s => quote s
  | .null => "None"
  | .bool true => "True"
  | .bool false => "False"
  | .int i => toString i
  | .float f => Number.report f
  | .list items => "[" ++ ", ".intercalate (reprs items) ++ "]"
  | .zoned instant offset =>
    (Instant.mk (instant.seconds + offset) instant.nanos).text ++ Calendar.offsetText offset
  | .naive clock => clock.text

/-- The items of a list as they stand inside it. -/
def reprs : List Value → List String
  | [] => []
  | item :: items => repr item :: reprs items

end

/-- The error for a value that is not a number. -/
def notNumeric (v : Value) : NotNumeric :=
  { kind := v.typeName, value := v.repr }

/-- A value as a float; a text is read as a number, blanks around it dropped. -/
def toFloat? (v : Value) : Except NotNumeric Float :=
  match v with
  | .bool b => .ok (if b then 1.0 else 0.0)
  | .int i => .ok (Number.ofInt i)
  | .float f => .ok f
  | .str s =>
    match Number.readFloat? (Text.trim s.toList) with
    | some f => .ok f
    | none => .error v.notNumeric
  | _ => .error v.notNumeric

/-- The instant of a timestamp; one without offset is universal time. -/
def utc? : Value → Option Instant
  | .zoned instant _ => some instant
  | .naive clock => some clock
  | _ => none

/-- A whole number as a value, or the nearest float when it does not fit 64 bits. -/
def ofWhole (i : Int) : Value :=
  if Number.inInt64 i then .int i else .float (Number.ofInt i)

mutual

/-- The value of a JSON value. An object has no row form and is kept as its text. -/
def ofJson : Json → Value
  | .null => .null
  | .bool b => .bool b
  | .number (.int i) => ofWhole i
  | .number (.float f) => .float f
  | .string s => .str s
  | .array items => .list (ofJsons items)
  | .object members => .str (Json.object members).compact

/-- The values of JSON values. -/
def ofJsons : List Json → List Value
  | [] => []
  | item :: items => ofJson item :: ofJsons items

end

end Value

/-- The named values that expressions and transformers can read while one row is processed; the
first binding of a name counts. -/
abbrev Sources := List (String × Value)

/-- The value of a name. -/
def Sources.find? (sources : Sources) (name : String) : Option Value :=
  sources.lookup name

/-- The sources with one more binding, which hides an earlier one. -/
def Sources.bind (sources : Sources) (name : String) (value : Value) : Sources :=
  (name, value) :: sources

/-- The names that are bound. -/
def Sources.names (sources : Sources) : List String :=
  sources.map (·.1)

end RowSignals
