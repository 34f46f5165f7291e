import RowSignals.Number.Layout
import RowSignals.Text.Quoted

/-!
# Tokens of the expression language

A text is cut into tokens before it is read as an expression. A piece of text that is no token
is kept as an invalid one, with what is wrong with it, so that the text can be shown as a whole
and the error be reported at its place.

* `LexError`: what is wrong with a piece of text that is no token.
* `TokenKind`: the kinds of tokens; `TokenKind.describe` is how messages name them.
* `reservedWords`: the words that no expression may hold, neither as names nor otherwise. They
  are those of the language that expressions are written like.
* `Position`, `Span`, `Token`, `Tokens`: tokens with their places in the text.

Offsets count bytes and columns count characters, because editors show columns, and whoever cuts
the text needs bytes.
-/

namespace RowSignals

/-- What is wrong with a piece of text that is no token. -/
inductive LexError where
  | unexpectedCharacter (c : Char)
  | privateName (name : String)
  | invalidNumber (text : String)
  | unterminatedString
  deriving Repr, DecidableEq

/-- What a message says about a piece of text that is no token. -/
def LexError.message : LexError → String
  | .unexpectedCharacter c => "unexpected character `" ++ String.ofList [c] ++ "`"
  | .privateName name => "name `" ++ name ++ "` is not allowed"
  | .invalidNumber text => "invalid number `" ++ text ++ "`"
  | .unterminatedString => "unterminated string"

/-- The kinds of tokens. -/
inductive TokenKind where
  | trueWord | falseWord | noneWord
  | andWord | orWord | notWord | ifWord | elseWord
  /-- A word that the language keeps for itself and never accepts. -/
  | reserved (word : String)
  | int (value : Int)
  | float (value : Float)
  | string (value : String)
  | identifier (name : String)
  | plus | minus | star | doubleStar | slash | doubleSlash | percent
  | eq | ne | lt | le | gt | ge
  /-- A single `=`, which is only ever an error. -/
  | assign
  | leftParen | rightParen | leftBracket | rightBracket | comma | dot
  /-- A piece of text that is no token. -/
  | invalid (error : LexError)
  deriving Repr

/-- The words of statements and of constructs outside the expression language. -/
def reservedWords : List String := [
  "as", "assert", "async", "await", "break", "class", "continue", "def", "del", "elif",
  "except", "exec", "finally", "for", "from", "global", "import", "in", "is", "lambda",
  "nonlocal", "pass", "print", "raise", "return", "try", "while", "with", "yield"]

namespace TokenKind

/-- The kind of a word: a constant, an operator, a reserved word, or else a name. -/
def ofWord (word : String) : TokenKind :=
  match word with
  | "True" => .trueWord
  | "False" => .falseWord
  | "None" => .noneWord
  | "and" => .andWord
  | "or" => .orWord
  | "not" => .notWord
  | "if" => .ifWord
  | "else" => .elseWord
  | word => if reservedWords.contains word then .reserved word else .identifier word

/-- How a message names a token. -/
def describe : TokenKind → String
  | .trueWord => "`True`"
  | .falseWord => "`False`"
  | .noneWord => "`None`"
  | .andWord => "`and`"
  | .orWord => "`or`"
  | .notWord => "`not`"
  | .ifWord => "`if`"
  | .elseWord => "`else`"
  | .reserved word => "keyword `" ++ word ++ "`"
  | .int n => "number `" ++ toString n ++ "`"
  | .float f => "number `" ++ Number.format .plain f ++ "`"
  | .string s => "string " ++ Text.quoted s
  | .identifier name => "name `" ++ name ++ "`"
  | .plus => "`+`"
  | .minus => "`-`"
  | .star => "`*`"
  | .doubleStar => "`**`"
  | .slash => "`/`"
  | .doubleSlash => "`//`"
  | .percent => "`%`"
  | .eq => "`==`"
  | .ne => "`!=`"
  | .lt => "`<`"
  | .le => "`<=`"
  | .gt => "`>`"
  | .ge => "`>=`"
  | .assign => "`=`"
  | .leftParen => "`(`"
  | .rightParen => "`)`"
  | .leftBracket => "`[`"
  | .rightBracket => "`]`"
  | .comma => "`,`"
  | .dot => "`.`"
  | .invalid e => e.message

/-- How a message names the end of an expression. -/
def describeEnd : String := "end of expression"

/-- How a message names the next token, or the end. -/
def describeNext : Option TokenKind → String
  | some kind => kind.describe
  | none => describeEnd

end TokenKind

/-- A place in a text: bytes before it, line from 1, and column from 1 in characters. -/
structure Position where
  offset : Nat := 0
  line : Nat := 1
  column : Nat := 1
  deriving Repr, DecidableEq

/-- The place after one more character. -/
def Position.next (p : Position) (c : Char) : Position :=
  if c = '\n' then ⟨p.offset + c.utf8Size, p.line + 1, 1⟩
  else ⟨p.offset + c.utf8Size, p.line, p.column + 1⟩

/-- The place after some more text. -/
def Position.after (p : Position) (text : List Char) : Position :=
  text.foldl Position.next p

/-- A piece of a text: where it starts and the byte offset where it ends. -/
structure Span where
  start : Position := {}
  stop : Nat := 0
  deriving Repr, DecidableEq

/-- A token with its place. -/
structure Token where
  kind : TokenKind
  span : Span
  deriving Repr

/-- The tokens of a text, and the place that stands for the end. -/
structure Tokens where
  tokens : List Token
  finish : Span
  deriving Repr

namespace Tokens

/-- The kinds of the tokens. -/
def kinds (ts : Tokens) : List TokenKind :=
  ts.tokens.map (·.kind)

/-- The place of the token before which `left` tokens are left, the end included when none is
left. -/
def placeOf (ts : Tokens) (left : Nat) : Position :=
  match ts.tokens[ts.tokens.length - left]? with
  | some token => token.span.start
  | none => ts.finish.start

/-- The tokens without the last `count`, the end counting as one. What is left ends at its last
token. -/
def dropLast (ts : Tokens) (count : Nat) : Tokens :=
  match count with
  | 0 => ts
  | count + 1 =>
    let tokens := ts.tokens.take (ts.tokens.length - count)
    { tokens := tokens, finish := (tokens.getLast?.map (·.span)).getD {} }

end Tokens

end RowSignals
