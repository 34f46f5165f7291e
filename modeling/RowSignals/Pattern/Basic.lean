import RowSignals.Text.Alphanumeric
import RowSignals.Text.Blank
import RowSignals.Text.CaseFold
import RowSignals.Text.DecimalDigit
import RowSignals.Text.GeneralCategory
import RowSignals.Text.WordChar

/-!
# Patterns

A pattern describes texts: sets of characters in sequence, alternatives, repetitions, and
captures of what a part of the pattern matched.

* `CharSet`: sets of characters; `CharSet.contains` is membership.
* `Anchor`: conditions on the two characters around a place; `Anchor.holds`.
* `Repetition`: how often a part is repeated.
* `Pattern`: the pattern itself; `Pattern.sequence` joins some.
* `Pattern.isNullable`, `Pattern.isWidthless`: whether the empty text can match, and whether
  nothing else can.
* `Pattern.unrolled`, `Pattern.cost`: how often a part is laid out, and how large that gets.

A set is kept as it is written and asked character by character. No set is ever listed, so that
a complement costs nothing.
-/

namespace RowSignals

/-- A set of characters. -/
inductive CharSet where
  /-- The characters whose code points lie in one of the inclusive ranges. -/
  | ranges (items : List (Nat × Nat))
  | digits
  | blanks
  | wordChars
  | alphanumerics
  /-- The characters of some general categories. -/
  | categories (items : List Text.GeneralCategory)
  | union (left right : CharSet)
  | intersection (left right : CharSet)
  | complement (set : CharSet)
  /-- The characters that have a case variant in the set. -/
  | folded (set : CharSet)
  deriving Repr

namespace CharSet

/-- Whether a character belongs to a set. -/
def contains : CharSet → Char → Bool
  | .ranges items, c => items.any fun (low, high) => low ≤ c.toNat && c.toNat ≤ high
  | .digits, c => Text.isDecimalDigit c
  | .blanks, c => Text.isBlank c
  | .wordChars, c => Text.isWordChar c
  | .alphanumerics, c => Text.isAlphanumeric c
  | .categories items, c => items.contains (Text.generalCategory c)
  | .union left right, c => left.contains c || right.contains c
  | .intersection left right, c => left.contains c && right.contains c
  | .complement set, c => !set.contains c
  | .folded set, c => (Text.caseVariants c).any set.contains

/-- The set without characters. -/
def none : CharSet := .ranges []

/-- The set of one character. -/
def single (c : Char) : CharSet := .ranges [(c.toNat, c.toNat)]

/-- The characters of one set that are not in the other. -/
def difference (left right : CharSet) : CharSet :=
  .intersection left (.complement right)

/-- The characters of exactly one of two sets. -/
def symmetricDifference (left right : CharSet) : CharSet :=
  .union (left.difference right) (right.difference left)

end CharSet

/-- A condition on a place between two characters. -/
inductive Anchor where
  | textStart
  | textEnd
  /-- The start of a line; `returns` tells that a carriage return ends a line, too. -/
  | lineStart (returns : Bool)
  | lineEnd (returns : Bool)
  /-- A place between a word and a gap. -/
  | boundary (word : CharSet)
  | noBoundary (word : CharSet)
  | wordStart (word : CharSet)
  | wordEnd (word : CharSet)
  /-- A place after a gap. -/
  | afterGap (word : CharSet)
  /-- A place before a gap. -/
  | beforeGap (word : CharSet)
  deriving Repr

/-- Whether an anchor holds between two characters, of which either may be missing. -/
def Anchor.holds (before after : Option Char) : Anchor → Bool
  | .textStart => before.isNone
  | .textEnd => after.isNone
  -- the two ends of the text are ends of lines; between return and feed there is none
  | .lineStart false => before.all (· == '\n')
  | .lineEnd false => after.all (· == '\n')
  | .lineStart true => before.all fun c => c == '\n' || (c == '\r' && after != some '\n')
  | .lineEnd true => after.all fun c => c == '\r' || (c == '\n' && before != some '\r')
  | .boundary word => before.any word.contains != after.any word.contains
  | .noBoundary word => before.any word.contains == after.any word.contains
  | .wordStart word => !before.any word.contains && after.any word.contains
  | .wordEnd word => before.any word.contains && !after.any word.contains
  | .afterGap word => !before.any word.contains
  | .beforeGap word => !after.any word.contains

/-- How often a part is repeated, and whether many repetitions are tried before few. -/
structure Repetition where
  least : Nat
  /-- No number means without limit. -/
  most : Option Nat
  greedy : Bool
  deriving Repr, DecidableEq

/-- A description of texts. -/
inductive Pattern where
  | empty
  | one (set : CharSet)
  | anchored (anchor : Anchor)
  /-- A part whose match is kept under a number. -/
  | capture (index : Nat) (body : Pattern)
  | followedBy (first second : Pattern)
  /-- Either part; a match of the first one is preferred. -/
  | either (first second : Pattern)
  | repeated (count : Repetition) (body : Pattern)
  deriving Repr

namespace Pattern

/-- Patterns one after the other. -/
def sequence (parts : List Pattern) : Pattern :=
  match parts with
  | [] => .empty
  | [part] => part
  | part :: parts => .followedBy part (sequence parts)

/-- Whether a pattern can match the empty text. -/
def isNullable : Pattern → Bool
  | .empty => true
  | .one _ => false
  | .anchored _ => true
  | .capture _ body => body.isNullable
  | .followedBy first second => first.isNullable && second.isNullable
  | .either first second => first.isNullable || second.isNullable
  | .repeated count body => count.least == 0 || body.isNullable

/-- Whether a pattern can match the empty text only. -/
def isWidthless : Pattern → Bool
  | .empty => true
  | .one _ => false
  | .anchored _ => true
  | .capture _ body => body.isWidthless
  | .followedBy first second => first.isWidthless && second.isWidthless
  | .either first second => first.isWidthless && second.isWidthless
  | .repeated count body => count.most == some 0 || body.isWidthless

/-- How often a part needs to be unrolled: what only matches the empty text matches it once or
not at all. -/
def unrolled (count : Repetition) (body : Pattern) : Nat × Option Nat :=
  if body.isWidthless then (min count.least 1, some (min (count.most.getD 1) 1))
  else (count.least, count.most)

/-- About how many instructions a pattern takes. -/
def cost : Pattern → Nat
  | .empty => 0
  | .one _ => 1
  | .anchored _ => 1
  | .capture _ body => body.cost + 2
  | .followedBy first second => first.cost + second.cost
  | .either first second => first.cost + second.cost + 1
  | .repeated count body =>
    let (least, most) := body.unrolled count
    max 1 (max least (most.getD (least + 1))) * (body.cost + 1)

end Pattern

end RowSignals
