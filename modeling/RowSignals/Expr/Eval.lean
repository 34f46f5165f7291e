import RowSignals.Expr.Comparison

/-!
# Evaluation

Evaluation reads the given sources and nothing else.

* `callBuiltin`: the functions on values.
* `Expr.eval`: the value of an expression. `and`, `or`, conditionals and chains of comparisons
  skip what they do not need.
* `Expr.evalLinks`, `Expr.evalArgs`: chains of comparisons and arguments, from left to right.

The logical operators have one of their operands as value, not a flag. A chain of comparisons
has a flag as value, and evaluates each of its operands at most once.
-/

namespace RowSignals.Expr

/-! ## Functions -/

/-- The whole part of a float, as a whole number if it fits 64 bits. -/
def wholePart (f : Float) : Except EvalError Value :=
  let whole := Number.truncate f
  match Number.toInt? whole with
  | some i => .ok (if Number.inInt64 i then .int i else .float whole)
  | none => .error (.value (.notFinite f))

/-- A number rounded to a number of decimal places by scaling it with a power of ten. -/
def roundTo (f : Float) (digits : Int) : Float :=
  let factor := Number.tenPower (max (-308) (min 308 digits))
  Number.roundHalfEven (f * factor) / factor

/-- A number rounded to a whole number, or to some decimal places. -/
def roundValue (v : Value) (digits : Option Int) : Except EvalError Value :=
  match Num.of? v, digits with
  | none, _ => .error (.type (.notRoundable v.typeName))
  | some (.whole i), none => .ok (.int i)
  | some (.real f), none => wholePart (Number.roundHalfEven f)
  | some (.whole i), some d =>
    if 0 ≤ d then .ok (.int i) else wholePart (roundTo (Number.ofInt i) d)
  | some (.real f), some d => .ok (.float (roundTo f d))

/-- The absolute value of a number. -/
def absolute (v : Value) : Except EvalError Value :=
  match Num.of? v with
  | some (.whole i) => .ok (Value.ofWhole i.natAbs)
  | some (.real f) => .ok (.float f.abs)
  | none => .error (.type (.notAbsolute v.typeName))

/-- The first of the values that comes before all others, or after them. -/
def extreme (symbol : String) (wanted : Ordering) (best : Value) :
    List Value → Except EvalError Value
  | [] => .ok best
  | v :: rest =>
    match ordering? symbol v best with
    | .error e => .error e
    -- a value that is equal, or not a number, does not replace the best one so far
    | .ok o => extreme symbol wanted (if o == some wanted then v else best) rest

/-- A value as a whole number; a text is read as one. -/
def toWhole (v : Value) : Except EvalError Value :=
  match v with
  | .bool b => .ok (.int (if b then 1 else 0))
  | .int i => .ok (.int i)
  | .float f => wholePart f
  | .str s =>
    match Number.readInt64? (Text.trim s.toList) with
    | some i => .ok (.int i)
    | none => .error (.value (.notWhole v.repr))
  | other => .error (.type (.notConvertible other.typeName))

/-- A function applied to values. -/
def callBuiltin (f : Builtin) (args : List Value) : Except EvalError Value :=
  match args with
  | [] => .error (.type (.noArgument f.name))
  | first :: rest =>
    match f with
    | .abs => absolute first
    | .min => extreme "<" .lt first rest
    | .max => extreme ">" .gt first rest
    | .round =>
      match rest with
      | [] => roundValue first none
      | .int digits :: _ => roundValue first (some digits)
      | other :: _ => .error (.type (.notAnIndex other.typeName))
    | .float =>
      match first.toFloat? with
      | .ok x => .ok (.float x)
      | .error e => .error (.value (.notNumeric e))
    | .int => toWhole first

/-! ## Expressions -/

mutual

/-- The value of an expression. -/
def eval (sources : Sources) : Expr → Except EvalError Value
  | .literal value => .ok value.value
  | .name n | .source n =>
    match sources.find? n with
    | some v => .ok v
    | none => .error (.missingSource n)
  | .unary op e =>
    match eval sources e with
    | .error e => .error e
    | .ok v => unaryOp op v
  | .binary op l r =>
    match eval sources l with
    | .error e => .error e
    | .ok l =>
      match eval sources r with
      | .error e => .error e
      | .ok r => binaryOp op l r
  | .chained first rest =>
    match eval sources first with
    | .error e => .error e
    | .ok v => evalLinks sources v rest
  | .boolean op l r =>
    match eval sources l with
    | .error e => .error e
    | .ok v =>
      match op, v.isTruthy with
      | .and, true => eval sources r
      | .and, false => .ok v
      | .or, true => .ok v
      | .or, false => eval sources r
  | .conditional body test orelse =>
    match eval sources test with
    | .error e => .error e
    | .ok v => if v.isTruthy then eval sources body else eval sources orelse
  | .call f args =>
    match evalArgs sources args with
    | .error e => .error e
    | .ok values => callBuiltin f values

/-- Whether all links of a chain hold, the first one with `left`. Nothing after a link that
fails is evaluated. -/
def evalLinks (sources : Sources) (left : Value) :
    List (CompareOp × Expr) → Except EvalError Value
  | [] => .ok (.bool true)
  | (op, e) :: rest =>
    match eval sources e with
    | .error e => .error e
    | .ok right =>
      match compareValues op left right with
      | .error e => .error e
      | .ok false => .ok (.bool false)
      | .ok true => evalLinks sources right rest

/-- The values of arguments. -/
def evalArgs (sources : Sources) : List Expr → Except EvalError (List Value)
  | [] => .ok []
  | e :: rest =>
    match eval sources e with
    | .error e => .error e
    | .ok v =>
      match evalArgs sources rest with
      | .error e => .error e
      | .ok vs => .ok (v :: vs)

end

end RowSignals.Expr
