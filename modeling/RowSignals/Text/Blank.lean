/-!
# Blank characters

`isBlank` is the Unicode property `White_Space`, and `trim` drops blank characters from both
ends of a text. Names and cells are trimmed before they are looked at, so that a definition may
be indented or padded as its author likes. The property has not changed for many versions of
Unicode, which is why it needs no table.

* `isBlank`: the 25 white space characters.
* `trimStart`, `trimEnd`, `trim` on character lists, `trimmed` on strings.
-/

namespace RowSignals.Text

/-- Whether a character is white space. -/
def isBlank (c : Char) : Bool :=
  let n := c.toNat
  (9 ≤ n && n ≤ 13) || n == 0x20 || n == 0x85 || n == 0xA0 || n == 0x1680 ||
    (0x2000 ≤ n && n ≤ 0x200A) || n == 0x2028 || n == 0x2029 || n == 0x202F || n == 0x205F ||
    n == 0x3000

/-- A text without its leading blanks. -/
def trimStart (cs : List Char) : List Char :=
  cs.dropWhile isBlank

/-- A text without its trailing blanks. -/
def trimEnd (cs : List Char) : List Char :=
  (cs.reverse.dropWhile isBlank).reverse

/-- A text without blanks at either end. -/
def trim (cs : List Char) : List Char :=
  trimEnd (trimStart cs)

/-- A string without blanks at either end. -/
def trimmed (s : String) : String :=
  String.ofList (trim s.toList)

end RowSignals.Text
