import RowSignals.Expr.Basic
import RowSignals.Expr.Lexer

/-!
# Parser of the expression language

```text
expr        := or_expr ( "if" or_expr "else" expr )?
or_expr     := and_expr ( "or" and_expr )*
and_expr    := not_expr ( "and" not_expr )*
not_expr    := "not" not_expr | comparison
comparison  := arith ( compare_op arith )*
arith       := term ( ("+" | "-") term )*
term        := factor ( ("*" | "/" | "//" | "%") factor )*
factor      := ("-" | "+") factor | power
power       := primary ( "**" factor )?
primary     := literal | name ( "." name )* | builtin "(" args ")"
             | "SOURCES" "[" string "]" | "(" expr ")"
```

The parser works on the kinds of the tokens. A failure counts the tokens that were left, from
which `parseTokens` finds its place in the text. Expressions nest at most `maxDepth` deep: a
parenthesis, a conditional, an operator in front of its operand, an exponent and every link of a
chain of binary operators count one level. The level of a link counts for the rest of its chain
and no longer.

* `Problem`, `Failure`, `SyntaxError`: what is wrong, how many tokens were left, and where in
  the text that is.
* `Chain`: the four levels of chains of binary operators.
* `parseExpr` and the functions beside it: the grammar. Each call spends fuel; `enoughFuel` is
  enough for every text.
* `parse`: a whole text.

The functions of the grammar are mutually recursive and structural on the fuel. Some of them
call each other without taking a token, as an expression starts with a chain and a chain with an
operand, so that the tokens alone are no measure.
-/

namespace RowSignals.Expr

/-- The deepest nesting of an expression. -/
def maxDepth : Nat := 128

/-- What keeps a text from being an expression. -/
inductive Problem where
  | lexical (error : LexError)
  | nothing
  | assignment
  | trailing (found : TokenKind)
  | tooDeep
  | reservedWord (word : String)
  | unexpectedEnd
  | unexpected (found : TokenKind)
  | missing (wanted : TokenKind) (found : Option TokenKind)
  | missingName (found : Option TokenKind)
  | missingString (found : Option TokenKind)
  | notCallable (name : String)
  | unknownFunction (name : String)
  | wrongArity (function : Builtin) (count : Nat)
  deriving Repr

/-- What a message says about a problem. -/
def Problem.message : Problem → String
  | .lexical e => e.message
  | .nothing => "expected an expression"
  | .assignment => "assignment is not allowed in expressions"
  | .trailing found => "unexpected " ++ found.describe ++ " after expression"
  | .tooDeep => "expression is nested too deeply"
  | .reservedWord word => "keyword `" ++ word ++ "` is not allowed in expressions"
  | .unexpectedEnd => "unexpected end of expression"
  | .unexpected found => "unexpected " ++ found.describe
  | .missing wanted found =>
    "expected " ++ wanted.describe ++ ", found " ++ TokenKind.describeNext found
  | .missingName found => "expected a name, found " ++ TokenKind.describeNext found
  | .missingString found => "expected a string, found " ++ TokenKind.describeNext found
  | .notCallable called => "`" ++ called ++ "` cannot be called or indexed"
  | .unknownFunction called => "calling `" ++ called ++ "` is not allowed"
  | .wrongArity called count =>
    "`" ++ called.name ++ "` expects " ++ called.arityText ++ " argument(s), got " ++
      toString count

/-- A problem and how many tokens were left when it was found. -/
structure Failure where
  problem : Problem
  left : Nat
  deriving Repr

/-- A problem and its place in the text. -/
structure SyntaxError where
  problem : Problem
  line : Nat
  column : Nat
  deriving Repr

/-- What a message says about a text that is no expression. -/
def SyntaxError.message (e : SyntaxError) : String :=
  "invalid syntax at line " ++ toString e.line ++ ", column " ++ toString e.column ++ ": " ++
    e.problem.message

/-- The result of reading a phrase from the front of a list of tokens: the phrase and the tokens
after it. -/
abbrev Reading (α : Type) := Except Failure (α × List TokenKind)

/-- A failure in front of the given tokens. -/
def fail {α : Type} (problem : Problem) (ts : List TokenKind) : Except Failure α :=
  .error ⟨problem, ts.length⟩

/-! ## Chains of binary operators -/

/-- The levels of binary operators that associate to the left. -/
inductive Chain where
  | or | and | arith | term
  deriving Repr, DecidableEq

/-- An operator that joins two operands. -/
inductive Joiner where
  | boolean (op : BoolOp)
  | binary (op : BinaryOp)
  deriving Repr, DecidableEq

/-- Two operands joined. -/
def Joiner.join : Joiner → Expr → Expr → Expr
  | .boolean op, l, r => .boolean op l r
  | .binary op, l, r => .binary op l r

/-- The operator of a level that a token is. -/
def Chain.joiner? : Chain → TokenKind → Option Joiner
  | .or, .orWord => some (.boolean .or)
  | .and, .andWord => some (.boolean .and)
  | .arith, .plus => some (.binary .add)
  | .arith, .minus => some (.binary .sub)
  | .term, .star => some (.binary .mul)
  | .term, .slash => some (.binary .div)
  | .term, .doubleSlash => some (.binary .floorDiv)
  | .term, .percent => some (.binary .mod)
  | _, _ => none

/-- The comparison that a token is. -/
def compareOp? : TokenKind → Option CompareOp
  | .eq => some .eq
  | .ne => some .ne
  | .lt => some .lt
  | .le => some .le
  | .gt => some .gt
  | .ge => some .ge
  | _ => none

/-- The sign that a token is. -/
def signOp? : TokenKind → Option UnaryOp
  | .minus => some .neg
  | .plus => some .pos
  | _ => none

/-- The constant that a token is. -/
def literal? : TokenKind → Option Literal
  | .int n => some (.int n)
  | .float f => some (.float f)
  | .string s => some (.str s)
  | .trueWord => some (.bool true)
  | .falseWord => some (.bool false)
  | .noneWord => some .none
  | _ => none

/-! ## Phrases without subexpressions -/

/-- One level deeper, if the limit allows. -/
def enter (depth : Nat) (ts : List TokenKind) : Except Failure Nat :=
  if maxDepth < depth + 1 then fail .tooDeep ts else .ok (depth + 1)

/-- The rest of a dotted name that starts with `name`. -/
def parseDotted (name : String) : List TokenKind → Reading String
  | .dot :: .identifier part :: rest => parseDotted (name ++ "." ++ part) rest
  | .dot :: rest => fail (.missingName rest.head?) rest
  | rest => .ok (name, rest)

/-- The key and the bracket of a look-up, after its opening bracket. -/
def parseLookup : List TokenKind → Reading Expr
  | .string key :: .rightBracket :: rest => .ok (.source key, rest)
  | .string _ :: rest => fail (.missing .rightBracket rest.head?) rest
  | rest => fail (.missingString rest.head?) rest

/-- A bare name that starts with `name`; it cannot be called or indexed. -/
def parseBareName (name : String) (ts : List TokenKind) : Reading Expr :=
  match parseDotted name ts with
  | .error e => .error e
  | .ok (dotted, .leftParen :: rest) => fail (.notCallable dotted) (.leftParen :: rest)
  | .ok (dotted, .leftBracket :: rest) => fail (.notCallable dotted) (.leftBracket :: rest)
  | .ok (dotted, rest) => .ok (.name dotted, rest)

/-- What is wrong with a token with which no phrase can start. -/
def primaryProblem : TokenKind → Problem
  | .reserved word => .reservedWord word
  | .assign => .assignment
  | found => .unexpected found

/-! ## The grammar -/

mutual

/-- An expression, one level deeper than what surrounds it. -/
def parseExpr (fuel depth : Nat) (ts : List TokenKind) : Reading Expr :=
  match fuel with
  | 0 => fail .tooDeep ts
  | fuel + 1 =>
    match enter depth ts with
    | .error e => .error e
    | .ok depth =>
      match parseChain fuel .or depth ts with
      | .error e => .error e
      | .ok (body, .ifWord :: rest) =>
        match parseChain fuel .or depth rest with
        | .error e => .error e
        | .ok (test, .elseWord :: rest) =>
          match parseExpr fuel depth rest with
          | .error e => .error e
          | .ok (orelse, rest) => .ok (.conditional body test orelse, rest)
        | .ok (_, rest) => fail (.missing .elseWord rest.head?) rest
      | .ok (body, rest) => .ok (body, rest)
termination_by structural fuel

/-- A chain of operands joined by the operators of a level. -/
def parseChain (fuel : Nat) (chain : Chain) (depth : Nat) (ts : List TokenKind) :
    Reading Expr :=
  match fuel with
  | 0 => fail .tooDeep ts
  | fuel + 1 =>
    match parseOperand fuel chain depth ts with
    | .error e => .error e
    | .ok (first, rest) => parseLinks fuel chain depth first rest
termination_by structural fuel

/-- An operand of a level. -/
def parseOperand (fuel : Nat) (chain : Chain) (depth : Nat) (ts : List TokenKind) :
    Reading Expr :=
  match fuel with
  | 0 => fail .tooDeep ts
  | fuel + 1 =>
    match chain with
    | .or => parseChain fuel .and depth ts
    | .and => parseNegation fuel depth ts
    | .arith => parseChain fuel .term depth ts
    | .term => parseFactor fuel depth ts
termination_by structural fuel

/-- The links of a chain after `left`; every link nests the chain before it one level deeper. -/
def parseLinks (fuel : Nat) (chain : Chain) (depth : Nat) (left : Expr) (ts : List TokenKind) :
    Reading Expr :=
  match fuel with
  | 0 => fail .tooDeep ts
  | fuel + 1 =>
    match ts with
    | [] => .ok (left, [])
    | t :: rest =>
      match chain.joiner? t with
      | none => .ok (left, t :: rest)
      | some joiner =>
        -- the depth that was reached here is handed on to the next link
        match enter depth rest with
        | .error e => .error e
        | .ok depth =>
          match parseOperand fuel chain depth rest with
          | .error e => .error e
          | .ok (right, rest) => parseLinks fuel chain depth (joiner.join left right) rest
termination_by structural fuel

/-- A negation or a comparison. -/
def parseNegation (fuel depth : Nat) (ts : List TokenKind) : Reading Expr :=
  match fuel with
  | 0 => fail .tooDeep ts
  | fuel + 1 =>
    match ts with
    | .notWord :: rest =>
      match enter depth rest with
      | .error e => .error e
      | .ok depth =>
        match parseNegation fuel depth rest with
        | .error e => .error e
        | .ok (operand, rest) => .ok (.unary .not operand, rest)
    | ts =>
      match parseChain fuel .arith depth ts with
      | .error e => .error e
      | .ok (first, rest) =>
        match parseComparisons fuel depth rest with
        | .error e => .error e
        -- without a link there is no chain, only its first operand
        | .ok ([], rest) => .ok (first, rest)
        | .ok (link :: links, rest) => .ok (.chained first (link :: links), rest)
termination_by structural fuel

/-- The links of a chain of comparisons. -/
def parseComparisons (fuel depth : Nat) (ts : List TokenKind) :
    Reading (List (CompareOp × Expr)) :=
  match fuel with
  | 0 => fail .tooDeep ts
  | fuel + 1 =>
    match ts with
    | [] => .ok ([], [])
    | t :: rest =>
      match compareOp? t with
      | none => .ok ([], t :: rest)
      | some op =>
        match parseChain fuel .arith depth rest with
        | .error e => .error e
        | .ok (operand, rest) =>
          match parseComparisons fuel depth rest with
          | .error e => .error e
          | .ok (links, rest) => .ok ((op, operand) :: links, rest)
termination_by structural fuel

/-- A signed factor or a power. -/
def parseFactor (fuel depth : Nat) (ts : List TokenKind) : Reading Expr :=
  match fuel with
  | 0 => fail .tooDeep ts
  | fuel + 1 =>
    match ts with
    | [] => parsePower fuel depth []
    | t :: rest =>
      match signOp? t with
      | none => parsePower fuel depth (t :: rest)
      | some op =>
        match enter depth rest with
        | .error e => .error e
        | .ok depth =>
          match parseFactor fuel depth rest with
          | .error e => .error e
          | .ok (operand, rest) => .ok (.unary op operand, rest)
termination_by structural fuel

/-- A primary phrase with an optional exponent. -/
def parsePower (fuel depth : Nat) (ts : List TokenKind) : Reading Expr :=
  match fuel with
  | 0 => fail .tooDeep ts
  | fuel + 1 =>
    match parsePrimary fuel depth ts with
    | .error e => .error e
    | .ok (base, .doubleStar :: rest) =>
      match enter depth rest with
      | .error e => .error e
      | .ok depth =>
        -- a factor again, so that powers associate to the right and exponents may be signed
        match parseFactor fuel depth rest with
        | .error e => .error e
        | .ok (exponent, rest) => .ok (.binary .pow base exponent, rest)
    | .ok (base, rest) => .ok (base, rest)
termination_by structural fuel

/-- A constant, a source, a call, or an expression in parentheses. -/
def parsePrimary (fuel depth : Nat) (ts : List TokenKind) : Reading Expr :=
  match fuel with
  | 0 => fail .tooDeep ts
  | fuel + 1 =>
    match ts with
    | [] => fail .unexpectedEnd []
    | .leftParen :: rest =>
      match parseExpr fuel depth rest with
      | .error e => .error e
      | .ok (e, .rightParen :: rest) => .ok (e, rest)
      | .ok (_, rest) => fail (.missing .rightParen rest.head?) rest
    | .identifier word :: .leftParen :: rest =>
      -- a function is known by the parenthesis; without one its name is a source like any other
      match Builtin.ofName? word with
      | none => fail (.unknownFunction word) (.leftParen :: rest)
      | some function =>
        match parseArguments fuel depth rest with
        | .error e => .error e
        | .ok (args, .rightParen :: rest) =>
          if function.accepts args.length then .ok (.call function args, rest)
          else fail (.wrongArity function args.length) rest
        | .ok (_, rest) => fail (.missing .rightParen rest.head?) rest
    | .identifier word :: .leftBracket :: rest =>
      if word = sourcesName then parseLookup rest else parseBareName word (.leftBracket :: rest)
    | .identifier word :: rest => parseBareName word rest
    | t :: rest =>
      match literal? t with
      | some value => .ok (.literal value, rest)
      | none => fail (primaryProblem t) (t :: rest)
termination_by structural fuel

/-- Arguments separated by commas, up to the closing parenthesis; a comma may follow the last
one. -/
def parseArguments (fuel depth : Nat) (ts : List TokenKind) : Reading (List Expr) :=
  match fuel with
  | 0 => fail .tooDeep ts
  | fuel + 1 =>
    match ts with
    | [] => .ok ([], [])
    | .rightParen :: rest => .ok ([], .rightParen :: rest)
    | ts =>
      match parseExpr fuel depth ts with
      | .error e => .error e
      | .ok (arg, .comma :: rest) =>
        match parseArguments fuel depth rest with
        | .error e => .error e
        | .ok (args, rest) => .ok (arg :: args, rest)
      | .ok (arg, rest) => .ok ([arg], rest)
termination_by structural fuel

end

/-! ## The whole text -/

/-- Fuel for so many tokens: a dozen calls lead from one token to the next. -/
def enoughFuel (count : Nat) : Nat :=
  16 * count + 16

/-- The expression of a whole list of tokens. -/
def parseKinds (ts : List TokenKind) : Except Failure Expr :=
  match ts with
  | [] => fail .nothing []
  | ts =>
    match parseExpr (enoughFuel ts.length) 0 ts with
    | .error e => .error e
    | .ok (e, []) => .ok e
    | .ok (_, .assign :: rest) => fail .assignment (.assign :: rest)
    | .ok (_, t :: rest) => fail (.trailing t) (t :: rest)

/-- The first token that is none, with its place. -/
def firstInvalid? : List Token → Option (LexError × Position)
  | [] => none
  | ⟨.invalid e, span⟩ :: _ => some (e, span.start)
  | _ :: rest => firstInvalid? rest

/-- The expression of a text's tokens. An invalid token is reported before anything else. -/
def parseTokens (ts : Tokens) : Except SyntaxError Expr :=
  match firstInvalid? ts.tokens with
  | some (e, place) => .error ⟨.lexical e, place.line, place.column⟩
  | none =>
    match parseKinds ts.kinds with
    | .ok e => .ok e
    | .error failure =>
      let place := ts.placeOf failure.left
      .error ⟨failure.problem, place.line, place.column⟩

/-- The expression that a text writes. -/
def parse (source : String) : Except SyntaxError Expr :=
  parseTokens (Lexer.tokenize source)

end RowSignals.Expr
