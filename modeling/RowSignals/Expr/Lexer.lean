import RowSignals.Expr.Token
import RowSignals.Number.Reading

/-!
# Lexer of the expression language

`tokenize` cuts a text into tokens. Blanks and comments, which run from `#` to the end of the
line, separate tokens. A piece of text that is no token becomes an invalid token, so that every
text has tokens.

* `skipBlanks`: the text after blanks and comments.
* `scanName`, `scanString`, `scanNumber`: one token of a class, with the rest of the text.
* `scanToken`: any token; `tokenize`: all of them.

The longest token counts: `**` is one sign, and `1.5e3` one number. Scanners know nothing of
places. `tokensFrom` finds where a token ends by what its scanner left of the text.
-/

namespace RowSignals.Expr.Lexer

/-! ## Character classes -/

/-- Whether a character is a blank between tokens. -/
def isBlank (c : Char) : Bool :=
  c == ' ' || c == '\t' || c == '\r' || c == '\n'

/-- Whether a name can start with a character. -/
def isNameStart (c : Char) : Bool :=
  c.isAlpha || c == '_'

/-- Whether a name can go on with a character. -/
def isNamePart (c : Char) : Bool :=
  c.isAlphanum || c == '_'

/-! ## Scanners

Each scanner returns what it read and the rest of the text. -/

/-- The text after blanks and comments. The flag tells whether a comment is open. -/
def skipBlanksFrom (inComment : Bool) : List Char → List Char
  | [] => []
  | c :: rest =>
    if inComment then
      if c = '\n' then skipBlanksFrom false rest else skipBlanksFrom true rest
    else if isBlank c then skipBlanksFrom false rest
    else if c = '#' then skipBlanksFrom true rest
    else c :: rest

/-- The text after blanks and comments. -/
def skipBlanks (cs : List Char) : List Char :=
  skipBlanksFrom false cs

/-- A name, which starts with `first`; two underscores in front are not allowed. -/
def scanName (first : Char) (rest : List Char) : TokenKind × List Char :=
  let word := String.ofList (first :: rest.takeWhile isNamePart)
  let kind :=
    if first = '_' && rest.head? = some '_' then .invalid (.privateName word)
    else TokenKind.ofWord word
  (kind, rest.dropWhile isNamePart)

/-- The character that an escape stands for. -/
def escaped? : Char → Option Char
  | 'n' => some '\n'
  | 't' => some '\t'
  | 'r' => some '\r'
  | '\\' => some '\\'
  | '"' => some '"'
  | '\x27' => some '\x27'
  | _ => none

/-- One more character in front of the characters that were read. -/
def prepend (c : Char) (read : Option (List Char) × List Char) :
    Option (List Char) × List Char :=
  (read.1.map (c :: ·), read.2)

/-- The characters of a string up to its closing quote. There are none when the line or the text
ends first. A backslash before a character that it does not escape stands for itself. -/
def scanString (quote : Char) : List Char → Option (List Char) × List Char
  | [] => (none, [])
  | c :: rest =>
    if c = '\n' then (none, c :: rest)
    else if c = quote then (some [], rest)
    else if c = '\\' then
      match rest with
      | [] => (none, [])
      | e :: after =>
        match escaped? e with
        | some x => prepend x (scanString quote after)
        -- the next character is looked at again, as it may be a quote or a line break
        | none => prepend '\\' (scanString quote (e :: after))
    else prepend c (scanString quote rest)

/-- The point of a number and the digits after it, if the text goes on with a point. -/
def scanPlaces : List Char → List Char × List Char
  | '.' :: rest => let (digits, rest) := Number.spanDigits rest; ('.' :: digits, rest)
  | rest => ([], rest)

/-- The exponent of a number, if the text goes on with one: `e`, an optional sign, and at least
one digit. -/
def scanExponent : List Char → List Char × List Char
  | [] => ([], [])
  | e :: rest =>
    if e = 'e' || e = 'E' then
      match rest with
      -- without a digit the letter is no exponent and stays in the text
      | s :: d :: more =>
        if (s = '+' || s = '-') && d.isDigit then
          let (digits, rest) := Number.spanDigits (d :: more)
          (e :: s :: digits, rest)
        else if s.isDigit then
          let (digits, rest) := Number.spanDigits (s :: d :: more)
          (e :: digits, rest)
        else ([], e :: rest)
      | [d] => if d.isDigit then ([e, d], []) else ([], e :: rest)
      | [] => ([], e :: rest)
    else ([], e :: rest)

/-- A number. A whole number that does not fit 64 bits is a float, and a number that runs into a
name is invalid. -/
def scanNumber (cs : List Char) : TokenKind × List Char :=
  let (whole, rest) := Number.spanDigits cs
  let (places, rest) := scanPlaces rest
  let (exponent, rest) := scanExponent rest
  let text := whole ++ places ++ exponent
  if rest.head?.any isNameStart then
    (.invalid (.invalidNumber (String.ofList (text ++ rest.takeWhile isNamePart))),
      rest.dropWhile isNamePart)
  else
    let value := Number.digitsValue whole
    if places.isEmpty && exponent.isEmpty && value < 1 <<< 63 then (.int value, rest)
    else
      match Number.readFloat? text with
      | some f => (.float f, rest)
      | none => (.invalid (.invalidNumber (String.ofList text)), rest)

/-- One kind if the text goes on with a character, else another. -/
def either (c : Char) (longer shorter : TokenKind) : List Char → TokenKind × List Char
  | d :: rest => if c = d then (longer, rest) else (shorter, d :: rest)
  | [] => (shorter, [])

/-- The token that starts with a character that is no blank. -/
def scanToken (c : Char) (rest : List Char) : TokenKind × List Char :=
  match c with
  | '(' => (.leftParen, rest)
  | ')' => (.rightParen, rest)
  | '[' => (.leftBracket, rest)
  | ']' => (.rightBracket, rest)
  | ',' => (.comma, rest)
  | '+' => (.plus, rest)
  | '-' => (.minus, rest)
  | '%' => (.percent, rest)
  | '.' => if rest.head?.any Char.isDigit then scanNumber (c :: rest) else (.dot, rest)
  | '*' => either '*' .doubleStar .star rest
  | '/' => either '/' .doubleSlash .slash rest
  | '=' => either '=' .eq .assign rest
  | '!' => either '=' .ne (.invalid (.unexpectedCharacter '!')) rest
  | '<' => either '=' .le .lt rest
  | '>' => either '=' .ge .gt rest
  | c =>
    if c = '"' || c = '\x27' then
      match scanString c rest with
      | (some text, rest) => (.string (String.ofList text), rest)
      | (none, rest) => (.invalid .unterminatedString, rest)
    else if c.isDigit then scanNumber (c :: rest)
    else if isNameStart c then scanName c rest
    else (.invalid (.unexpectedCharacter c), rest)

/-! ## The whole text -/

/-- The text in front of a rest of it. -/
def consumed (cs rest : List Char) : List Char :=
  cs.take (cs.length - rest.length)

/-- The tokens of a text that starts at a place. Every token takes a character, so that the
length of the text bounds their number. -/
def tokensFrom (fuel : Nat) (place : Position) (cs : List Char) : Tokens :=
  let start := skipBlanks cs
  let place := place.after (consumed cs start)
  match fuel, start with
  | fuel + 1, c :: rest =>
    let (kind, after) := scanToken c rest
    let next := place.after (consumed (c :: rest) after)
    let others := tokensFrom fuel next after
    { others with tokens := ⟨kind, ⟨place, next.offset⟩⟩ :: others.tokens }
  | _, _ => { tokens := [], finish := ⟨place, place.offset⟩ }

/-- The tokens of a text. -/
def tokenize (source : String) : Tokens :=
  let cs := source.toList
  tokensFrom cs.length {} cs

end RowSignals.Expr.Lexer
