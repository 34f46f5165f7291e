import RowSignals.Value

/-!
# Expressions

The expressions by which a query computes new values from the columns of a row.

* `Literal`, `UnaryOp`, `BinaryOp`, `CompareOp`, `BoolOp`, `Builtin`: what expressions are made
  of.
* `Expr`: an expression.
* `Expr.references`: the source names that it reads, in order of appearance.

Comparisons are kept as chains, since `a < b < c` evaluates `b` once and is not made of two
comparisons. The other operators take two operands, and what associates to the left is nested to
the left. The arguments of a function are a list whose length the parser has checked
(`Builtin.accepts`).
-/

namespace RowSignals

/-- A constant. -/
inductive Literal where
  | int (value : Int)
  | float (value : Float)
  | str (value : String)
  | bool (value : Bool)
  | none
  deriving Repr, BEq

/-- The value of a constant. -/
def Literal.value : Literal → Value
  | .int i => .int i
  | .float f => .float f
  | .str s => .str s
  | .bool b => .bool b
  | .none => .null

/-- An operator in front of its operand. -/
inductive UnaryOp where
  | neg | pos | not
  deriving Repr, DecidableEq

/-- An arithmetic operator. -/
inductive BinaryOp where
  | add | sub | mul | div | floorDiv | mod | pow
  deriving Repr, DecidableEq

/-- The sign of an arithmetic operator. -/
def BinaryOp.symbol : BinaryOp → String
  | .add => "+"
  | .sub => "-"
  | .mul => "*"
  | .div => "/"
  | .floorDiv => "//"
  | .mod => "%"
  | .pow => "**"

/-- A comparison. -/
inductive CompareOp where
  | eq | ne | lt | le | gt | ge
  deriving Repr, DecidableEq

/-- The sign of a comparison. -/
def CompareOp.symbol : CompareOp → String
  | .eq => "=="
  | .ne => "!="
  | .lt => "<"
  | .le => "<="
  | .gt => ">"
  | .ge => ">="

/-- A logical operator. -/
inductive BoolOp where
  | and | or
  deriving Repr, DecidableEq

/-- The word of a logical operator. -/
def BoolOp.word : BoolOp → String
  | .and => "and"
  | .or => "or"

/-- The functions; nothing else can be called. -/
inductive Builtin where
  | abs | min | max | round | float | int
  deriving Repr, DecidableEq

namespace Builtin

/-- The functions in the order of their declaration. -/
def all : List Builtin := [.abs, .min, .max, .round, .float, .int]

/-- The name of a function. -/
def name : Builtin → String
  | .abs => "abs"
  | .min => "min"
  | .max => "max"
  | .round => "round"
  | .float => "float"
  | .int => "int"

/-- The function of a name. -/
def ofName? (name : String) : Option Builtin :=
  all.find? (·.name == name)

/-- The least and, if there is one, the greatest number of arguments. -/
def arity : Builtin → Nat × Option Nat
  | .abs | .float | .int => (1, some 1)
  | .round => (1, some 2)
  | .min | .max => (2, none)

/-- Whether a function takes so many arguments. -/
def accepts (b : Builtin) (count : Nat) : Bool :=
  b.arity.1 ≤ count && b.arity.2.all (count ≤ ·)

/-- How a message names the numbers of arguments that a function takes. -/
def arityText (b : Builtin) : String :=
  match b.arity with
  | (low, some high) =>
    if low = high then toString low else toString low ++ " to " ++ toString high
  | (low, none) => "at least " ++ toString low

end Builtin

/-- An expression. -/
inductive Expr where
  | literal (value : Literal)
  /-- A source by its bare name, which may have dots. -/
  | name (name : String)
  /-- A source by an explicit look-up. -/
  | source (name : String)
  | unary (op : UnaryOp) (operand : Expr)
  | binary (op : BinaryOp) (left right : Expr)
  /-- A chain of comparisons, such as `a < b <= c`. -/
  | chained (first : Expr) (rest : List (CompareOp × Expr))
  | boolean (op : BoolOp) (left right : Expr)
  /-- `body if test else orelse`. -/
  | conditional (body test orelse : Expr)
  | call (function : Builtin) (args : List Expr)
  deriving Repr, BEq, Inhabited

namespace Expr

/-- The name under which all sources can be looked up. -/
def sourcesName : String := "SOURCES"

mutual

/-- The source names that an expression reads, in order of appearance, repeats included. -/
def references : Expr → List String
  | .literal _ => []
  | .name n => [n]
  | .source n => [n]
  | .unary _ e => references e
  | .binary _ l r => references l ++ references r
  | .chained first rest => references first ++ linkReferences rest
  | .boolean _ l r => references l ++ references r
  | .conditional body test orelse => references body ++ (references test ++ references orelse)
  | .call _ args => argReferences args

/-- The source names that the operands of a chain read. -/
def linkReferences : List (CompareOp × Expr) → List String
  | [] => []
  | (_, e) :: rest => references e ++ linkReferences rest

/-- The source names that arguments read. -/
def argReferences : List Expr → List String
  | [] => []
  | e :: rest => references e ++ argReferences rest

end

end Expr

end RowSignals
