import RowSignals.Pattern.Basic
import RowSignals.Text.Pieces

/-!
# The text of a pattern

How far the text of a pattern has been read, and which flags are in force there. The flags
belong to what has been read: a group may change them for its own part, and a switch for the
rest of the group around it.

* `Pattern.Flags`, `Pattern.Cursor`.
* `Pattern.Reading`: reading that may fail, with the operations that take characters.

A failure carries no reason, as no message tells one.
-/

namespace RowSignals

/-- What the letters of a flag group switch. -/
structure Pattern.Flags where
  /-- Case variants of a character match it. -/
  ignoreCase : Bool := false
  /-- `^` and `$` hold at every line. -/
  lines : Bool := false
  /-- `.` takes line feeds, too. -/
  dotAll : Bool := false
  /-- Few repetitions are tried before many. -/
  lazy : Bool := false
  /-- Classes cover all scripts. -/
  unicode : Bool := true
  /-- A carriage return ends a line, too. -/
  returns : Bool := false
  /-- Blanks and comments between the parts do not count. -/
  spaced : Bool := false
  deriving Repr

/-- How far a pattern has been read. -/
structure Pattern.Cursor where
  rest : List Char
  flags : Pattern.Flags := {}
  /-- How many captures have been opened. -/
  captures : Nat := 0
  /-- The names of captures, in order. -/
  names : List (String × Nat) := []
  deriving Repr

namespace Pattern

/-- Reading that may fail. -/
abbrev Reading := StateT Cursor Option

namespace Reading

/-! ## Characters -/

/-- No pattern is written here. -/
def fail {α : Type} : Reading α := fun _ => none

/-- The flags in force. -/
def flags : Reading Flags := do return (← get).flags

/-- The next character, if any. -/
def peek : Reading (Option Char) := do return (← get).rest.head?

/-- The next character, which is taken. -/
def next : Reading Char := do
  let cursor ← get
  match cursor.rest with
  | c :: rest => set { cursor with rest := rest }; return c
  | [] => fail

/-- Take a text if it comes next. -/
def take (text : String) : Reading Bool := do
  let cursor ← get
  match Text.stripStart? text.toList cursor.rest with
  | some rest => set { cursor with rest := rest }; return true
  | none => return false

/-- What is left after the blanks and comments. -/
def dropSpacing : Bool → List Char → List Char
  | _, [] => []
  | true, c :: rest => dropSpacing (c != '\n') rest
  | false, c :: rest =>
    if Text.isBlank c then dropSpacing false rest
    else if c = '#' then dropSpacing true rest
    else c :: rest

/-- Skip blanks and comments where they do not count. -/
def skip : Reading Unit := do
  let cursor ← get
  if cursor.flags.spaced then set { cursor with rest := dropSpacing false cursor.rest }

/-- The next character, which is taken with the blanks after it. -/
def nextSkipping : Reading Char := do
  let c ← next
  skip
  return c

end Reading

end Pattern

end RowSignals
