import RowSignals.Expr.Lexer
import RowSignals.Expr.Printer
import RowSignals.Text.Alphanumeric
import RowSignals.Text.Pieces

/-!
# Bare source names

A known source may be written bare although its name is no name of the expression language:
`system.load.1`, `rows-read`. Before the text is cut into tokens, `resolveNames` replaces every
such name by an explicit look-up. At each place the longest known name counts. Quoted texts and
comments stay as they are.

* `literalEnd`: where a quoted text ends.
* `referenceAt?`, `longestReference`: the known name that stands at a place.
* `resolveNames`: the text with explicit look-ups.

The text is walked once from left to right. What was put in is not looked at again, and the
places of all tokens behind it move by its length. Names that are numbers, and names that are
called, are left alone.
-/

namespace RowSignals.Names

/-- Whether a name goes on with a character, so that no other name ends before it or starts
after it. -/
def continuesName (c : Char) : Bool :=
  Text.isAlphanumeric c || c == '_' || c == '.'

/-- Whether a name is a number, which is never replaced. -/
def isNumeral (name : List Char) : Bool :=
  name.head?.any (fun c => c.isDigit || c == '.') && (Number.readFloat? name).isSome

/-- Whether a known name can be replaced at all. -/
def isReplaceable (name : List Char) : Bool :=
  !name.isEmpty && !isNumeral name

/-- The characters of a quoted text after its opening quote, the closing one included, and the
text after it. A backslash takes the next character along. An unclosed text ends before the line
end. -/
def literalEnd (quote : Char) : List Char → List Char × List Char
  | [] => ([], [])
  | c :: rest =>
    if c = '\\' then
      match rest with
      | [] => ([c], [])
      | e :: after => let (text, after) := literalEnd quote after; (c :: e :: text, after)
    else if c = '\n' then ([], c :: rest)
    else if c = quote then ([c], rest)
    else let (text, after) := literalEnd quote rest; (c :: text, after)

/-- What follows a name that stands at the front of a text: the name ends there and is not
called. -/
def referenceAt? (name text : List Char) : Option (List Char) :=
  match Text.stripStart? name text with
  | none => none
  | some after =>
    if after.head?.any continuesName then none
    else if (Text.trimStart after).head? = some '(' then none
    else some after

/-- The number of bytes of a name. -/
def byteCount (name : List Char) : Nat :=
  name.foldl (fun bytes c => bytes + c.utf8Size) 0

/-- The longer one of two names, counted in bytes; the first of two names of one length. -/
def longer (a b : List Char) : List Char :=
  if byteCount a < byteCount b then b else a

/-- The longest of the names that stand at the front of a text. -/
def longestReference (names : List (List Char)) (text : List Char) : Option (List Char) :=
  match names.filter fun name => isReplaceable name && (referenceAt? name text).isSome with
  | [] => none
  | name :: others => some (others.foldl longer name)

/-- A text with explicit look-ups, after the character `before`; the length of the text is
enough fuel. -/
def resolveFrom (fuel : Nat) (names : List (List Char)) (before : Option Char)
    (text : List Char) : List Char :=
  match fuel, text with
  | _, [] => []
  | 0, text => text
  | fuel + 1, c :: rest =>
    if c = '"' || c = '\x27' then
      let (literal, after) := literalEnd c rest
      -- what stands before the text behind it is its last character, the quote itself if empty
      c :: (literal ++ resolveFrom fuel names (literal.getLast?.or (some c)) after)
    else if c = '#' then
      let comment := rest.takeWhile (· != '\n')
      c :: (comment ++ resolveFrom fuel names (comment.getLast?.or (some c))
        (rest.dropWhile (· != '\n')))
    else if before.any continuesName then c :: resolveFrom fuel names (some c) rest
    else
      match longestReference names (c :: rest) with
      | some name =>
        -- the next name sees the bracket of the look-up in front of it
        (Expr.lookupText (String.ofList name)).toList ++
          resolveFrom fuel names (some ']') ((c :: rest).drop name.length)
      | none => c :: resolveFrom fuel names (some c) rest

/-- A text with every bare known name replaced by an explicit look-up. -/
def resolveNames (known : List String) (source : String) : String :=
  let text := source.toList
  String.ofList (resolveFrom text.length (known.map String.toList) none text)

end RowSignals.Names
