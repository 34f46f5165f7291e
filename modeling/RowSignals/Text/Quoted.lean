import RowSignals.Text.Unprintable
import RowSignals.Text.GraphemeExtend

/-!
# Quoted texts

The quoted form of a text shows it on one line between double quotes: quotes and backslashes are
escaped, line breaks, tabs and NUL by their letters, and every character that would not be
visible on its own by its code point in braces.

A mark that extends a grapheme counts as not visible wherever it stands. It would attach itself
to the quote or to the character in front of it, and that would change how this one looks.

* `quotedChar`: one character inside a quoted text.
* `quoted`: a text between double quotes.
-/

namespace RowSignals.Text

/-- The hexadecimal digits of a number, in lower case. -/
def hex (n : Nat) : String :=
  String.ofList (Nat.toDigits 16 n)

/-- A character inside a quoted text. -/
def quotedChar (c : Char) : String :=
  match c with
  | '"' => "\\\""
  | '\\' => "\\\\"
  | '\n' => "\\n"
  | '\r' => "\\r"
  | '\t' => "\\t"
  | '\x00' => "\\0"
  | c =>
    if extendsGrapheme c || isUnprintable c then "\\u\x7b" ++ hex c.toNat ++ "\x7d"
    else String.ofList [c]

/-- A text between double quotes. -/
def quoted (s : String) : String :=
  "\"" ++ String.join (s.toList.map quotedChar) ++ "\""

end RowSignals.Text
