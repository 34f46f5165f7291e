import RowSignals.Expr.Basic
import RowSignals.Expr.Token
import RowSignals.Text.Outline

/-!
# Outlines of tokens and expressions

How tokens and expressions are shown for inspection: by the labels of their kinds, with what
they carry as parts. Numbers are shown as the machine keeps them, so that a whole number and a
float with the same value can be told apart.

* `TokenKind.outline`: a token.
* `Expr.outline`: an expression.
-/

namespace RowSignals

open Text (Outline)

namespace TokenKind

/-- The label of the end of a text among the labels of tokens. -/
def endLabel : String := "Eof"

/-- The label of a kind. -/
def label : TokenKind → String
  | .trueWord => "True"
  | .falseWord => "False"
  | .noneWord => "None"
  | .andWord => "And"
  | .orWord => "Or"
  | .notWord => "Not"
  | .ifWord => "If"
  | .elseWord => "Else"
  | .reserved _ => "Reserved"
  | .int _ => "Int"
  | .float _ => "Float"
  | .string _ => "String"
  | .identifier _ => "Identifier"
  | .plus => "Plus"
  | .minus => "Minus"
  | .star => "Star"
  | .doubleStar => "DoubleStar"
  | .slash => "Slash"
  | .doubleSlash => "DoubleSlash"
  | .percent => "Percent"
  | .eq => "Eq"
  | .ne => "Ne"
  | .lt => "Lt"
  | .le => "Le"
  | .gt => "Gt"
  | .ge => "Ge"
  | .assign => "Assign"
  | .leftParen => "LParen"
  | .rightParen => "RParen"
  | .leftBracket => "LBracket"
  | .rightBracket => "RBracket"
  | .comma => "Comma"
  | .dot => "Dot"
  | .invalid _ => "Error"

/-- The outline of a token: its label, with what it carries. -/
def outline (kind : TokenKind) : Outline :=
  let parts : List Outline := match kind with
    | .reserved word => [.text word]
    | .int n => [.atom (toString n)]
    | .float f => [.atom (Number.format .inspect f)]
    | .string s => [.text s]
    | .identifier name => [.text name]
    | .invalid e => [.text e.message]
    | _ => []
  .tuple kind.label parts

end TokenKind

/-- The outline of a constant. -/
def Literal.outline : Literal → Outline
  | .int i => .tuple "Int" [.atom (toString i)]
  | .float f => .tuple "Float" [.atom (Number.format .inspect f)]
  | .str s => .tuple "Str" [.text s]
  | .bool b => .tuple "Bool" [.atom (if b then "true" else "false")]
  | .none => .atom "None"

/-- The label of an operator in front of its operand. -/
def UnaryOp.label : UnaryOp → String
  | .neg => "Neg"
  | .pos => "Pos"
  | .not => "Not"

/-- The label of an arithmetic operator. -/
def BinaryOp.label : BinaryOp → String
  | .add => "Add"
  | .sub => "Sub"
  | .mul => "Mul"
  | .div => "Div"
  | .floorDiv => "FloorDiv"
  | .mod => "Mod"
  | .pow => "Pow"

/-- The label of a comparison. -/
def CompareOp.label : CompareOp → String
  | .eq => "Eq"
  | .ne => "Ne"
  | .lt => "Lt"
  | .le => "Le"
  | .gt => "Gt"
  | .ge => "Ge"

/-- The label of a logical operator. -/
def BoolOp.label : BoolOp → String
  | .and => "And"
  | .or => "Or"

/-- The label of a function. -/
def Builtin.label : Builtin → String
  | .abs => "Abs"
  | .min => "Min"
  | .max => "Max"
  | .round => "Round"
  | .float => "Float"
  | .int => "Int"

namespace Expr

mutual

/-- The outline of an expression. -/
def outline : Expr → Outline
  | .literal value => .tuple "Literal" [value.outline]
  | .name n => .tuple "Name" [.text n]
  | .source n => .tuple "Source" [.text n]
  | .unary op e => .record "Unary" [("op", .atom op.label), ("operand", outline e)] false
  | .binary op l r =>
    .record "Binary" [("op", .atom op.label), ("left", outline l), ("right", outline r)] false
  | .chained first rest =>
    .record "Compare" [("first", outline first), ("rest", .list (linkOutlines rest))] false
  | .boolean op l r =>
    .record "BoolOp" [("op", .atom op.label), ("left", outline l), ("right", outline r)] false
  | .conditional body test orelse =>
    .record "Conditional"
      [("body", outline body), ("test", outline test), ("orelse", outline orelse)] false
  | .call f args =>
    .record "Call" [("func", .atom f.label), ("args", .list (argOutlines args))] false

/-- The outlines of the links of a chain. -/
def linkOutlines : List (CompareOp × Expr) → List Outline
  | [] => []
  | (op, e) :: rest => .tuple "" [.atom op.label, outline e] :: linkOutlines rest

/-- The outlines of arguments. -/
def argOutlines : List Expr → List Outline
  | [] => []
  | e :: rest => outline e :: argOutlines rest

end

end Expr

end RowSignals
