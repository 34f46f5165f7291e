import RowSignals.Expr.Basic

/-!
# Canonical text of an expression

`Expr.print` writes an expression with a pair of parentheses around every operator, so that
reading the text needs no precedence. Texts stand between double quotes.

* `quoteText`, `lookupText`: texts, and sources that are looked up.
* `Expr.print`: any expression.

A whole number is written as it is, a negative one with its sign in front, which the parser
would read as an operator. No expression that was parsed holds one: its numbers have no sign.
-/

namespace RowSignals.Expr

/-- A character inside a quoted text of an expression. -/
def escapeChar (c : Char) : List Char :=
  match c with
  | '"' => ['\\', '"']
  | '\\' => ['\\', '\\']
  | '\n' => ['\\', 'n']
  | '\t' => ['\\', 't']
  | '\r' => ['\\', 'r']
  | c => [c]

/-- A quoted text of an expression. -/
def quoteText (s : String) : String :=
  "\"" ++ String.ofList (s.toList.flatMap escapeChar) ++ "\""

/-- The explicit look-up of a source. -/
def lookupText (source : String) : String :=
  sourcesName ++ "[" ++ quoteText source ++ "]"

/-- The text of a constant. -/
def printLiteral : Literal → String
  | .int i => toString i
  | .float f => Number.report f
  | .str s => quoteText s
  | .bool true => "True"
  | .bool false => "False"
  | .none => "None"

/-- The text of an operator in front of its operand. -/
def printUnaryOp : UnaryOp → String
  | .neg => "-"
  | .pos => "+"
  | .not => "not "

mutual

/-- The canonical text of an expression. -/
def print : Expr → String
  | .literal value => printLiteral value
  | .name n => n
  | .source n => lookupText n
  | .unary op e => "(" ++ printUnaryOp op ++ print e ++ ")"
  | .binary op l r => "(" ++ print l ++ " " ++ op.symbol ++ " " ++ print r ++ ")"
  | .chained first rest => "(" ++ print first ++ printLinks rest ++ ")"
  | .boolean op l r => "(" ++ print l ++ " " ++ op.word ++ " " ++ print r ++ ")"
  | .conditional body test orelse =>
    "(" ++ print body ++ " if " ++ print test ++ " else " ++ print orelse ++ ")"
  | .call f args => f.name ++ "(" ++ printArgs args ++ ")"

/-- The text of the links of a chain of comparisons. -/
def printLinks : List (CompareOp × Expr) → String
  | [] => ""
  | (op, e) :: rest => " " ++ op.symbol ++ " " ++ print e ++ printLinks rest

/-- The text of arguments. -/
def printArgs : List Expr → String
  | [] => ""
  | e :: rest => print e ++ printMoreArgs rest

/-- The text of the arguments after the first. -/
def printMoreArgs : List Expr → String
  | [] => ""
  | e :: rest => ", " ++ print e ++ printMoreArgs rest

end

end RowSignals.Expr
