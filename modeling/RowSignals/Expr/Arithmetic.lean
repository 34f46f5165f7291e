import RowSignals.Expr.Basic
import RowSignals.Number.Rounding

/-!
# Arithmetic on values

Flags count as whole numbers. Whole numbers stay whole as long as they fit 64 bits and become
floats beyond; `/` always makes a float. Division and remainder round down.

* `EvalError`: what can go wrong.
* `Num`: the numbers among the values.
* `floatOp`: the operators on floats.
* `product?`, `powerFrom?`: products and powers within 64 bits.
* `quotient?`, `remainder?`, `wentUp`: division cut towards zero, and when it has to be
  corrected.
* `wholeOp`: the operators on whole numbers.
* `unaryOp`, `binaryOp`: the operators on values.

Every operator on whole numbers tries an exact result first and falls back to that of the
floats. An error about a zero divisor comes before either, and says which kind of division it
was.
-/

namespace RowSignals.Expr

/-- What divisor was zero. -/
inductive ZeroDivisor where
  | division
  | floatFloorDivision
  | floatRemainder
  | wholeDivision
  | negativePower
  deriving Repr, DecidableEq

/-- What a message says about a zero divisor. -/
def ZeroDivisor.message : ZeroDivisor → String
  | .division => "division by zero"
  | .floatFloorDivision => "float floor division by zero"
  | .floatRemainder => "float modulo"
  | .wholeDivision => "integer division or modulo by zero"
  | .negativePower => "0.0 cannot be raised to a negative power"

/-- A use of a type that does not support it. -/
inductive TypeProblem where
  | operands (symbol left right : String)
  | unaryOperand (symbol operand : String)
  | notOrdered (symbol left right : String)
  | noArgument (function : String)
  | notAbsolute (operand : String)
  | notAnIndex (operand : String)
  | notRoundable (operand : String)
  | notConvertible (operand : String)
  deriving Repr, DecidableEq

/-- What a message says about a type. -/
def TypeProblem.message : TypeProblem → String
  | .operands symbol left right =>
    "unsupported operand type(s) for " ++ symbol ++ ": '" ++ left ++ "' and '" ++ right ++ "'"
  | .unaryOperand symbol operand =>
    "bad operand type for unary " ++ symbol ++ ": '" ++ operand ++ "'"
  | .notOrdered symbol left right =>
    "'" ++ symbol ++ "' not supported between instances of '" ++ left ++ "' and '" ++
      right ++ "'"
  | .noArgument function => function ++ "() expected at least 1 argument"
  | .notAbsolute operand => "bad operand type for abs(): '" ++ operand ++ "'"
  | .notAnIndex operand => "'" ++ operand ++ "' object cannot be interpreted as an integer"
  | .notRoundable operand => "type " ++ operand ++ " doesn't define __round__ method"
  | .notConvertible operand =>
    "int() argument must be a string or a number, not '" ++ operand ++ "'"

/-- A value that an operation cannot take. -/
inductive ValueProblem where
  | notNumeric (error : NotNumeric)
  | fractionalPower
  | notWhole (value : String)
  | notFinite (value : Float)
  deriving Repr

/-- What a message says about a value. -/
def ValueProblem.message : ValueProblem → String
  | .notNumeric e => e.message
  | .fractionalPower => "negative number cannot be raised to a fractional power"
  | .notWhole value => "invalid literal for int() with base 10: " ++ value
  | .notFinite value => "cannot convert float " ++ Number.report value ++ " to integer"

/-- What can go wrong when an expression is evaluated. -/
inductive EvalError where
  | zeroDivision (divisor : ZeroDivisor)
  | type (problem : TypeProblem)
  | value (problem : ValueProblem)
  | missingSource (name : String)
  deriving Repr

/-- What a message says about a failed evaluation. -/
def EvalError.message : EvalError → String
  | .zeroDivision d => d.message
  | .type p => p.message
  | .value p => p.message
  | .missingSource n => "source `" ++ n ++ "` is not available"

/-! ## Numbers -/

/-- The numbers among the values. -/
inductive Num where
  | whole (value : Int)
  | real (value : Float)
  deriving Repr

namespace Num

/-- The number that a value is; a flag is 0 or 1. -/
def of? : Value → Option Num
  | .bool b => some (.whole (if b then 1 else 0))
  | .int i => some (.whole i)
  | .float f => some (.real f)
  | _ => none

/-- A number as a float. -/
def toFloat : Num → Float
  | .whole i => Number.ofInt i
  | .real f => f

end Num

/-! ## Operators -/

/-- An operator on floats. -/
def floatOp (op : BinaryOp) (x y : Float) : Except EvalError Float :=
  match op with
  | .add => .ok (x + y)
  | .sub => .ok (x - y)
  | .mul => .ok (x * y)
  | .div => if y == 0 then .error (.zeroDivision .division) else .ok (x / y)
  | .floorDiv =>
    if y == 0 then .error (.zeroDivision .floatFloorDivision) else .ok (x / y).floor
  | .mod =>
    if y == 0 then .error (.zeroDivision .floatRemainder)
    else
      -- the remainder has the sign of `x`; one of the wrong sign is moved by the divisor
      let r := Number.remainder x y
      .ok (if r != 0 && (decide (r < 0) != decide (y < 0)) then r + y else r)
  | .pow =>
    if x == 0 && y < 0 then .error (.zeroDivision .negativePower)
    else if x < 0 && Number.fraction y != 0 then .error (.value .fractionalPower)
    else .ok (x.pow y)

/-- An exact result, or that of the floats when it does not fit 64 bits. -/
def wholeOr (exact : Int) (otherwise : Except EvalError Float) : Except EvalError Value :=
  if Number.inInt64 exact then .ok (.int exact) else otherwise.map .float

/-- The product of two whole numbers if it fits 64 bits. -/
def product? (x y : Int) : Option Int :=
  if Number.inInt64 (x * y) then some (x * y) else none

/-- `r * base ^ n` by repeated squaring, taking the bits of `n` from the lowest. There is none
as soon as a product does not fit 64 bits; after the last bit the base is not squared again. -/
def powerFrom? (r base : Int) (n : Nat) : Option Int :=
  match n with
  | 0 => some r
  | 1 => product? r base
  | n + 2 =>
    match (if n % 2 = 1 then product? r base else some r), product? base base with
    | some r, some square => powerFrom? r square (n / 2 + 1)
    | _, _ => none
termination_by n
decreasing_by omega

/-- The power of a whole number if it fits 64 bits. There is none for exponents of more than 32
bits. -/
def wholePower? (x : Int) (y : Nat) : Option Int :=
  if y < 1 <<< 32 then powerFrom? 1 x y else none

/-- The quotient of two whole numbers, cut towards zero. There is none when the divisor is zero
or the quotient does not fit 64 bits. -/
def quotient? (x y : Int) : Option Int :=
  if y = 0 then none
  else
    let q := Int.tdiv x y
    if Number.inInt64 q then some q else none

/-- The remainder that the quotient leaves, with the sign of the dividend. -/
def remainder? (x y : Int) : Option Int :=
  (quotient? x y).map fun _ => Int.tmod x y

/-- Whether cutting towards zero went up: something is left, and its sign is not that of the
divisor. -/
def wentUp (remainder divisor : Int) : Bool :=
  remainder != 0 && decide (remainder < 0) != decide (divisor < 0)

/-- An operator on whole numbers. -/
def wholeOp (op : BinaryOp) (x y : Int) : Except EvalError Value :=
  let asFloats := floatOp op (Number.ofInt x) (Number.ofInt y)
  match op with
  | .add => wholeOr (x + y) asFloats
  | .sub => wholeOr (x - y) asFloats
  | .mul => wholeOr (x * y) asFloats
  | .div => asFloats.map .float
  | .floorDiv =>
    if y = 0 then .error (.zeroDivision .wholeDivision)
    else match quotient? x y, remainder? x y with
      | some q, some r => .ok (.int (if wentUp r y then q - 1 else q))
      | _, _ => asFloats.map .float
  | .mod =>
    if y = 0 then .error (.zeroDivision .wholeDivision)
    else
      -- only the least whole number divided by -1 does not fit, and it leaves nothing
      let r := (remainder? x y).getD 0
      .ok (.int (if wentUp r y then r + y else r))
  | .pow =>
    if y < 0 then asFloats.map .float
    else match wholePower? x y.toNat with
      | some power => .ok (.int power)
      | none => asFloats.map .float

/-- An operator in front of a value. -/
def unaryOp (op : UnaryOp) (v : Value) : Except EvalError Value :=
  match op, Num.of? v with
  | .not, _ => .ok (.bool (!v.isTruthy))
  | .neg, some (.whole i) => .ok (Value.ofWhole (-i))
  | .neg, some (.real f) => .ok (.float (-f))
  | .pos, some (.whole i) => .ok (.int i)
  | .pos, some (.real f) => .ok (.float f)
  | .neg, none => .error (.type (.unaryOperand "-" v.typeName))
  | .pos, none => .error (.type (.unaryOperand "+" v.typeName))

/-- An arithmetic operator on numbers. -/
def numberOp (op : BinaryOp) (left right : Value) : Except EvalError Value :=
  match Num.of? left, Num.of? right with
  | some (.whole x), some (.whole y) => wholeOp op x y
  | some x, some y => (floatOp op x.toFloat y.toFloat).map .float
  | _, _ => .error (.type (.operands op.symbol left.typeName right.typeName))

/-- An arithmetic operator on values; `+` also joins texts and lists. -/
def binaryOp (op : BinaryOp) (left right : Value) : Except EvalError Value :=
  match op, left, right with
  | .add, .str a, .str b => .ok (.str (a ++ b))
  | .add, .list a, .list b => .ok (.list (a ++ b))
  | op, left, right => numberOp op left right

end RowSignals.Expr
