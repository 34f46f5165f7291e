import RowSignals.Number.Binary64

/-!
# JSON values

Raw definitions, queries and scripted rows are JSON values. The members of an object are kept in
ascending order of their keys, each key once, so that an object has one form only and can be
digested and compared as it stands.

* `Json.Number`: a whole number of the signed or unsigned 64-bit range, or a float.
* `Json`: a JSON value.
* `Json.Members.insert`: one more member; the later one of two equal keys stays.
* `Json.Members.present?`: a member that is there and not null. Whoever reads a definition asks
  for members this way, which makes a null the same as no entry.
* `Json.same`: whether two values are the same, whole numbers apart from floats.
-/

namespace RowSignals

/-- A JSON number: whole when it fits 64 bits, else a float. -/
inductive Json.Number where
  | int (value : Int)
  | float (value : Float)
  deriving Repr

/-- Whether two numbers are the same: whole numbers as such, floats by value. -/
def Json.Number.same : Json.Number → Json.Number → Bool
  | .int a, .int b => a == b
  | .float a, .float b => a == b
  | _, _ => false

/-- The number as a float. -/
def Json.Number.toFloat : Json.Number → Float
  | .int i => RowSignals.Number.ofInt i
  | .float f => f

/-- A JSON value. -/
inductive Json where
  | null
  | bool (value : Bool)
  | number (value : Json.Number)
  | string (value : String)
  | array (items : List Json)
  | object (members : List (String × Json))
  deriving Repr, Inhabited

namespace Json

/-- The members of an object. -/
abbrev Members := List (String × Json)

/-- Put one member in its place. A member of the same key is replaced. -/
def Members.insert (key : String) (value : Json) : Members → Members
  | [] => [(key, value)]
  | (k, v) :: rest =>
    if key < k then (key, value) :: (k, v) :: rest
    else if key = k then (key, value) :: rest
    else (k, v) :: Members.insert key value rest

/-- The object with the given members; a repeated key keeps its last value. -/
def ofMembers (members : List (String × Json)) : Json :=
  .object (members.foldl (fun sorted (key, value) => Members.insert key value sorted) [])

/-- The member of a key. -/
def Members.get? (members : Members) (key : String) : Option Json :=
  members.lookup key

/-- The member of a key, when it is there and not null. -/
def Members.present? (members : Members) (key : String) : Option Json :=
  match members.get? key with
  | some .null | none => none
  | some value => some value

/-- A whole number as a value. -/
def ofInt (i : Int) : Json :=
  .number (.int i)

/-- A natural number as a value. -/
def ofNat (n : Nat) : Json :=
  .number (.int n)

/-- A float as a value. -/
def ofFloat (f : Float) : Json :=
  .number (.float f)

/-- A list of strings as a value. -/
def ofStrings (texts : List String) : Json :=
  .array (texts.map .string)

/-- An optional value, null when it is missing. -/
def ofOption {α : Type} (f : α → Json) : Option α → Json
  | none => .null
  | some a => f a

/-- Whether the value is null. -/
def isNull : Json → Bool
  | .null => true
  | _ => false

/-- The text of a string value. -/
def string? : Json → Option String
  | .string s => some s
  | _ => none

/-- The items of an array. -/
def items? : Json → Option (List Json)
  | .array items => some items
  | _ => none

/-- The members of an object. -/
def members? : Json → Option Members
  | .object members => some members
  | _ => none

/-- The number of a numeric value, as a float. -/
def float? : Json → Option Float
  | .number n => some n.toFloat
  | _ => none

/-- The whole number of a numeric value that fits the signed 64-bit range. -/
def int64? : Json → Option Int
  | .number (.int i) => if RowSignals.Number.inInt64 i then some i else none
  | _ => none

/-- The texts of an array of strings. -/
def strings? (value : Json) : Option (List String) :=
  value.items?.bind fun items => items.mapM string?

/-- The member of a key, when the value is an object that has it. -/
def member? (value : Json) (key : String) : Option Json :=
  value.members?.bind fun members => members.get? key

mutual

/-- Whether two values are the same. -/
def same : Json → Json → Bool
  | .null, .null => true
  | .bool a, .bool b => a == b
  | .number a, .number b => a.same b
  | .string a, .string b => a == b
  | .array a, .array b => sameItems a b
  | .object a, .object b => sameMembers a b
  | _, _ => false

/-- Whether two lists of values are the same. -/
def sameItems : List Json → List Json → Bool
  | [], [] => true
  | a :: as, b :: bs => same a b && sameItems as bs
  | _, _ => false

/-- Whether two lists of members are the same. -/
def sameMembers : List (String × Json) → List (String × Json) → Bool
  | [], [] => true
  | (k, a) :: as, (l, b) :: bs => k == l && same a b && sameMembers as bs
  | _, _ => false

end

end Json

end RowSignals
