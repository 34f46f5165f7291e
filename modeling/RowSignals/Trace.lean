import RowSignals.Expr.Compiled
import RowSignals.Expr.Outline

/-!
# Tracing an expression

The tracer shows what becomes of one expression: its tokens, its structure, its canonical text,
the names that it reads and its value. Sources are given as `name=value` arguments.

* `Trace.binding?`: one such argument.
* `Trace.compiledText`: what is shown of an expression that compiles.
* `Trace.run`: the exit code and the two output texts for a list of arguments.

The tokens are those of the text as it was typed. Bare names are resolved for compiling only, so
the structure below them may show more look-ups than the tokens do.
-/

namespace RowSignals.Trace

open Text (Outline)

/-- What a run of the tracer leaves behind. -/
structure Report where
  code : Nat
  stdout : String
  stderr : String
  deriving Repr, DecidableEq

/-- A source given as an argument: its value is a whole number, a float or else a text. -/
def binding? (argument : String) : Option (String × Value) :=
  (Text.splitFirst? (· == '=') argument.toList).map fun (name, raw) =>
    let value := match Number.readInt64? raw with
      | some i => Value.int i
      | none =>
        match Number.readFloat? raw with
        | some f => .float f
        | none => .str (String.ofList raw)
    (String.ofList name, value)

/-- What the tracer says without arguments. -/
def usage : String :=
  "Usage: cargo run --bin trace_expr '<expression>' [name=value ...]\n\nExample:\n" ++
    "  cargo run --bin trace_expr 'test.foo / 2' test.foo=5\n"

/-- A text in at least `width` characters, blanks in front. -/
def padLeft (width : Nat) (s : String) : String :=
  String.ofList (List.replicate (width - s.length) ' ') ++ s

/-- A text in at least `width` characters, blanks behind. -/
def padRight (width : Nat) (s : String) : String :=
  s ++ String.ofList (List.replicate (width - s.length) ' ')

/-- The line of one token. -/
def tokenLine (place : Position) (text : String) : String :=
  "  " ++ padLeft 3 (toString place.line) ++ ":" ++ padRight 3 (toString place.column) ++
    " " ++ text ++ "\n"

/-- The lines of all tokens, the end included. -/
def tokenLines (ts : Tokens) : String :=
  String.join (ts.tokens.map fun t => tokenLine t.span.start t.kind.outline.line) ++
    tokenLine ts.finish.start TokenKind.endLabel

/-- What the tracer says about a compiled expression. -/
def compiledText (e : CompiledExpr) (sources : Sources) : String :=
  let result := match e.eval sources with
    | .ok v => "RESULT: " ++ v.display ++ " (" ++ v.typeName ++ ")\n"
    | .error e => "EVALUATION ERROR: " ++ e.message ++ "\n"
  "AST:\n" ++ e.ast.outline.block 0 ++ "\n\nCANONICAL: " ++ e.ast.print ++ "\nREFERENCES: " ++
    (Outline.texts e.references).line ++ "\n\n" ++ result

/-- The sources of some arguments, and the complaints about the others. -/
def bindings : List String → Sources × String
  | [] => ([], "")
  | argument :: rest =>
    let (sources, complaints) := bindings rest
    match binding? argument with
    -- a later argument of the same name wins
    | some (name, value) =>
      (if sources.names.contains name then sources else sources.bind name value, complaints)
    | none =>
      (sources, "Ignoring malformed binding " ++ Text.quoted argument ++
        " (expected name=value)\n" ++ complaints)

/-- A run of the tracer. -/
def run : List String → Report
  | [] => { code := 1, stdout := "", stderr := usage }
  | source :: arguments =>
    let (sources, complaints) := bindings arguments
    let heading := "EXPRESSION: " ++ source ++ "\n\nTOKENS:\n" ++
      tokenLines (Expr.Lexer.tokenize source) ++ "\n"
    match CompiledExpr.compile source sources.names .bare with
    | .error e =>
      { code := 2
        stdout := heading ++ "COMPILE ERROR: " ++ e.message ++ "\n"
        stderr := complaints }
    | .ok e => { code := 0, stdout := heading ++ compiledText e sources, stderr := complaints }

end RowSignals.Trace
