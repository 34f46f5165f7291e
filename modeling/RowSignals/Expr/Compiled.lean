import RowSignals.Expr.Eval
import RowSignals.Expr.Names
import RowSignals.Expr.Parser

/-!
# Compiled expressions

Compilation reads an expression and checks that every source it names will exist. After that,
evaluation can fail only on the values of the sources.

* `Resolution`: whether bare names count as sources or every source needs an explicit look-up.
* `ExprError`: what keeps a text from being compiled.
* `checkReferences`: the first name that does not resolve.
* `CompiledExpr.compile`: a text against the known sources.
* `CompiledExpr.eval`: the value for the sources of a row.

The places in syntax errors are those of the text that was parsed. Where bare names were
replaced in front of an error, that is not the text as it was written.
-/

namespace RowSignals

/-- How an expression names its sources. -/
inductive Resolution where
  /-- Known sources may stand bare. -/
  | bare
  /-- Every source is looked up explicitly. -/
  | explicit
  deriving Repr, DecidableEq

/-- What keeps a text from being compiled. -/
inductive ExprError where
  | invalid (error : Expr.SyntaxError)
  | unknownSource (name : String)
  | bareName (name : String)
  deriving Repr

namespace ExprError

/-- What a message says about a text that cannot be compiled. -/
def message : ExprError → String
  | .invalid e => e.message
  | .unknownSource name =>
    "the source `" ++ name ++ "` referenced by the expression is not available"
  | .bareName name =>
    "bare name `" ++ name ++ "` is not allowed in verbose mode, use SOURCES[\"" ++ name ++ "\"]"

/-- Whether the text is no expression at all. -/
def isInvalid : ExprError → Bool
  | .invalid _ => true
  | _ => false

end ExprError

namespace Expr

/-- Whether a name resolves; `bare` tells that it stands without a look-up. -/
def checkName (known : List String) (resolution : Resolution) (bare : Bool) (name : String) :
    Except ExprError Unit :=
  if bare && resolution = .explicit then .error (.bareName name)
  else if known.contains name then .ok ()
  else .error (.unknownSource name)

mutual

/-- The first name of an expression that does not resolve is an error. -/
def checkReferences (known : List String) (resolution : Resolution) :
    Expr → Except ExprError Unit
  | .literal _ => .ok ()
  | .name n => checkName known resolution true n
  | .source n => checkName known resolution false n
  | .unary _ e => checkReferences known resolution e
  | .binary _ l r => do
    checkReferences known resolution l
    checkReferences known resolution r
  | .chained first rest => do
    checkReferences known resolution first
    checkLinks known resolution rest
  | .boolean _ l r => do
    checkReferences known resolution l
    checkReferences known resolution r
  | .conditional body test orelse => do
    checkReferences known resolution body
    checkReferences known resolution test
    checkReferences known resolution orelse
  | .call _ args => checkArgs known resolution args

/-- The names of the operands of a chain. -/
def checkLinks (known : List String) (resolution : Resolution) :
    List (CompareOp × Expr) → Except ExprError Unit
  | [] => .ok ()
  | (_, e) :: rest => do
    checkReferences known resolution e
    checkLinks known resolution rest

/-- The names of arguments. -/
def checkArgs (known : List String) (resolution : Resolution) :
    List Expr → Except ExprError Unit
  | [] => .ok ()
  | e :: rest => do
    checkReferences known resolution e
    checkArgs known resolution rest

end

end Expr

/-- The first occurrences of the items of a list, in order. -/
def firstOccurrences {α : Type} [BEq α] (items : List α) : List α :=
  items.foldl (fun seen item => if seen.contains item then seen else seen ++ [item]) []

/-- An expression that was read and whose names resolve. -/
structure CompiledExpr where
  /-- The text as it was written. -/
  source : String
  ast : Expr
  /-- The names that the expression reads, each once. -/
  references : List String
  deriving Repr

namespace CompiledExpr

/-- Read a text and check its names against the known sources. -/
def compile (source : String) (known : List String) (resolution : Resolution) :
    Except ExprError CompiledExpr :=
  let text := match resolution with
    | .explicit => source
    | .bare => Names.resolveNames known source
  match Expr.parse text with
  | .error e => .error (.invalid e)
  | .ok ast =>
    match Expr.checkReferences known resolution ast with
    | .error e => .error e
    | .ok () =>
      .ok { source := source, ast := ast, references := firstOccurrences ast.references }

/-- The value of the expression for the sources of one row. -/
def eval (e : CompiledExpr) (sources : Sources) : Except Expr.EvalError Value :=
  e.ast.eval sources

end CompiledExpr

end RowSignals
