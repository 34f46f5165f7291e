import RowSignals.Expr.Arithmetic

/-!
# Comparing values

Numbers compare by value, whatever their type; texts by their characters; timestamps by the
instants that they stand for. Any two values are equal or not, but only values of one of these
three classes are ordered.

* `sameValue`: equality.
* `ordering?`: the order of two values of one class.
* `compareValues`: a comparison operator.

Two whole numbers are compared exactly, and a whole number with a float as floats. A float that
is not a number is neither equal to, less nor greater than anything.
-/

namespace RowSignals.Expr

/-- The order of two floats; none when one is not a number. -/
def floatOrdering? (x y : Float) : Option Ordering :=
  if x < y then some .lt else if y < x then some .gt else if x == y then some .eq else none

/-- The order of two instants. -/
def instantOrdering (a b : Calendar.Instant) : Ordering :=
  (compare a.seconds b.seconds).then (compare a.nanos b.nanos)

mutual

/-- Whether two values are equal. -/
def sameValue (left right : Value) : Bool :=
  match left, right with
  | .list a, .list b => sameValues a b
  | .null, .null => true
  | .str a, .str b => a == b
  | left, right =>
    match Num.of? left, Num.of? right with
    | some (.whole a), some (.whole b) => a == b
    | some a, some b => a.toFloat == b.toFloat
    | _, _ =>
      match left.utc?, right.utc? with
      | some a, some b => a == b
      | _, _ => false
termination_by structural left

/-- Whether two lists of values are equal. -/
def sameValues (left right : List Value) : Bool :=
  match left, right with
  | [], [] => true
  | a :: as, b :: bs => sameValue a b && sameValues as bs
  | _, _ => false
termination_by structural left

end

/-- The order of two values of one class; within a class, none when one is not a number. -/
def ordering? (symbol : String) (left right : Value) : Except EvalError (Option Ordering) :=
  match Num.of? left, Num.of? right with
  | some (.whole a), some (.whole b) => .ok (some (compare a b))
  | some a, some b => .ok (floatOrdering? a.toFloat b.toFloat)
  | _, _ =>
    match left, right with
    | .str a, .str b => .ok (some (compare a b))
    | left, right =>
      match left.utc?, right.utc? with
      | some a, some b => .ok (some (instantOrdering a b))
      | _, _ => .error (.type (.notOrdered symbol left.typeName right.typeName))

/-- Whether a comparison holds. -/
def compareValues (op : CompareOp) (left right : Value) : Except EvalError Bool :=
  match op with
  | .eq => .ok (sameValue left right)
  | .ne => .ok (!sameValue left right)
  | .lt => (ordering? op.symbol left right).map fun o => o == some .lt
  | .le => (ordering? op.symbol left right).map fun o => o == some .lt || o == some .eq
  | .gt => (ordering? op.symbol left right).map fun o => o == some .gt
  | .ge => (ordering? op.symbol left right).map fun o => o == some .gt || o == some .eq

end RowSignals.Expr
