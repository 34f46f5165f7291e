/-!
# Pieces of a text

Small operations on texts as character lists: splitting at a separator, lines, dropping a known
beginning and replacing every occurrence of a text. They are what the readers of the other
modules share. All of them walk over the text once, from the front.

* `splitOn`: the pieces between separators. A separator at an end of the text leaves an empty
  piece there, so that joining the pieces again gives the text back.
* `splitFirst?`: the text before the first separator and the text after it.
* `lines`: the lines of a text, without their line ends.
* `stripStart?`: what follows a known beginning.
* `replaceAll`: every occurrence replaced, from left to right. Occurrences do not overlap, and
  what was put in is not searched again.
* `withinBytes`: the longest beginning that fits a number of bytes.
-/

namespace RowSignals.Text

/-- The pieces between the characters that `sep` accepts; always at least one piece. -/
def splitOn (sep : Char → Bool) : List Char → List (List Char)
  | [] => [[]]
  | c :: rest =>
    if sep c then [] :: splitOn sep rest
    else match splitOn sep rest with
      | piece :: pieces => (c :: piece) :: pieces
      | [] => [[c]]

/-- A line without the carriage return before its line feed. -/
def dropReturn (line : List Char) : List Char :=
  if line.getLast? = some '\r' then line.dropLast else line

/-- The lines of a text. A line feed ends a line, a carriage return before it belongs to the
line end, and no empty line follows the last line feed. -/
def lines (cs : List Char) : List (List Char) :=
  let pieces := splitOn (· == '\n') cs
  let ended := pieces.dropLast.map dropReturn
  match pieces.getLast? with
  -- the text ends with a line feed, after which no line starts
  | some [] | none => ended
  | some last => ended ++ [last]

/-- The text before the first character that `sep` accepts, and the text after it. -/
def splitFirst? (sep : Char → Bool) : List Char → Option (List Char × List Char)
  | [] => none
  | c :: rest =>
    if sep c then some ([], rest)
    else (splitFirst? sep rest).map fun (before, after) => (c :: before, after)

/-- What follows `start` in a text that begins with it. -/
def stripStart? : List Char → List Char → Option (List Char)
  | [], cs => some cs
  | _ :: _, [] => none
  | p :: ps, c :: cs => if p = c then stripStart? ps cs else none

/-- What follows one of `skip` more characters, when occurrences of `pattern` are replaced by
`new`. -/
def replaceFrom (pattern new : List Char) : Nat → List Char → List Char
  | 0, [] => []
  | _ + 1, [] => []
  | skip + 1, _ :: rest => replaceFrom pattern new skip rest
  | 0, c :: rest =>
    -- the pattern starts with `c`, so that one character less of it is left to skip
    if pattern.isPrefixOf (c :: rest) then
      new ++ replaceFrom pattern new (pattern.length - 1) rest
    else c :: replaceFrom pattern new 0 rest

/-- A text with every occurrence of `pattern` replaced by `new`. An empty pattern occurs before
every character and at the end. -/
def replaceAll (pattern new cs : List Char) : List Char :=
  if pattern.isEmpty then new ++ cs.flatMap fun c => c :: new
  else replaceFrom pattern new 0 cs

/-- The longest beginning of a text that takes at most `size` bytes of UTF-8. -/
def withinBytes (size : Nat) : List Char → List Char
  | [] => []
  | c :: rest => if c.utf8Size ≤ size then c :: withinBytes (size - c.utf8Size) rest else []

end RowSignals.Text
