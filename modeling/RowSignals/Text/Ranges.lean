/-!
# Sets of characters as ranges

A character class is given by the inclusive ranges of its code points. The tables that the
modules beside this one hold are generated from the Unicode Character Database, version 16, and
all of them are in ascending order. `inRanges` is membership in such a table. It does not rely
on the order.

The modules with a table test the ASCII characters apart. Their classes are known without a
table, and what is proved about texts of ASCII characters then needs to look at no range.
-/

namespace RowSignals.Text

/-- Whether the code point of `c` lies in one of the inclusive ranges. -/
def inRanges (ranges : Array (Nat × Nat)) (c : Char) : Bool :=
  ranges.any fun range => range.1 ≤ c.toNat && c.toNat ≤ range.2

end RowSignals.Text
