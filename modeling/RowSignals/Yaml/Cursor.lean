import RowSignals.Text.Pieces
import RowSignals.Yaml.Token

/-!
# Reading YAML characters

The state of a scan: what is left of the text, where it stands, the tokens so far, and what the
indentation and the open flow collections imply.

* `Mark`, `KeyCandidate`, `Cursor`: the state.
* `Scan`: scanning that may fail.
* `skip`, `readBreak`, `skipBreak`: taking characters and line breaks.
* `Gap`, `gap`: the blanks and line breaks between two parts of a scalar, and what they fold to.

A scan fails without a reason. Whether a text is a configuration is all that its reader is
asked.
-/

namespace RowSignals.Yaml

/-- A place in the text: characters before it, lines before it, and characters before it in its
line. -/
structure Mark where
  index : Nat
  line : Nat
  column : Nat
  deriving Repr, DecidableEq

/-- A token that becomes a mapping key if a colon follows on its line. -/
structure KeyCandidate where
  /-- Nothing else than a key can stand at this place. -/
  required : Bool
  /-- How many tokens come before it. -/
  tokensBefore : Nat
  mark : Mark
  deriving Repr

/-- The state of a scan. -/
structure Cursor where
  rest : List Char
  mark : Mark
  tokens : Array Token
  /-- How many flow collections are open. -/
  flow : Nat
  /-- The column of the innermost block collection; `-1` outside of all. -/
  indent : Int
  /-- The columns of the block collections around it. -/
  indents : List Int
  /-- Whether a mapping key may start here. -/
  keyAllowed : Bool
  /-- The candidates of the open flow collections, the innermost first, and of the block around
  them. -/
  candidates : List (Option KeyCandidate)
  deriving Repr

/-- Scanning that may fail. -/
abbrev Scan := StateT Cursor Option

/-- The text is no YAML. -/
def fail {α : Type} : Scan α := fun _ => none

/-- The beginning of a text. -/
def Cursor.ofText (cs : List Char) : Cursor :=
  { rest := cs, mark := ⟨0, 0, 0⟩, tokens := #[], flow := 0, indent := -1, indents := [],
    keyAllowed := true, candidates := [none] }

/-! ## Characters -/

/-- A blank within a line. -/
def isSpace (c : Char) : Bool := c == ' ' || c == '\t'

/-- A line break. -/
def isBreak (c : Char) : Bool :=
  c == '\n' || c == '\r' || c.toNat == 0x85 || c.toNat == 0x2028 || c.toNat == 0x2029

/-- A character that may stand in a YAML text. -/
def isAllowed (c : Char) : Bool :=
  let n := c.toNat
  n == 0x09 || n == 0x0A || n == 0x0D || (0x20 ≤ n && n ≤ 0x7E) || n == 0x85 ||
    (0xA0 ≤ n && n ≤ 0xD7FF) || (0xE000 ≤ n && n ≤ 0xFFFD && n != 0xFEFF) || 0x10000 ≤ n

/-- Whether nothing, a blank or a line break stands at the start of a text. -/
def startsBlank (cs : List Char) : Bool :=
  cs.head?.all fun c => isSpace c || isBreak c

/-- What is left of the text. -/
def rest : Scan (List Char) := do return (← get).rest

/-- The next character. -/
def peek : Scan (Option Char) := do return (← get).rest.head?

/-- The column of the next character. -/
def column : Scan Nat := do return (← get).mark.column

/-- Take one character of a line. -/
def skip : Scan Unit :=
  modify fun s =>
    { s with
      rest := s.rest.drop 1
      mark := ⟨s.mark.index + 1, s.mark.line, s.mark.column + 1⟩ }

/-- Take some characters of a line. -/
def skipMany (count : Nat) : Scan Unit :=
  modify fun s =>
    { s with
      rest := s.rest.drop count
      mark := ⟨s.mark.index + count, s.mark.line, s.mark.column + count⟩ }

/-- Take a line break. It is kept as a line feed, but for the separators of lines and
paragraphs. -/
def readBreak : Scan (List Char) := do
  let s ← get
  let (text, rest, count) := match s.rest with
    | '\r' :: '\n' :: rest => (['\n'], rest, 2)
    | c :: rest => (if c.toNat = 0x2028 || c.toNat = 0x2029 then [c] else ['\n'], rest, 1)
    | [] => ([], [], 0)
  set { s with rest := rest, mark := ⟨s.mark.index + count, s.mark.line + 1, 0⟩ }
  return text

/-- Drop a line break. -/
def skipBreak : Scan Unit := discard readBreak

/-- Take the characters of a line as long as they pass a test. -/
def takeWhile (test : Char → Bool) : Scan (List Char) := do
  let text := (← rest).takeWhile test
  skipMany text.length
  return text

/-- Whether a document marker stands here. -/
def atMarker : Scan Bool := do
  let s ← get
  let marker (start : String) := (Text.stripStart? start.toList s.rest).any startsBlank
  return s.mark.column == 0 && (marker "---" || marker "...")

/-- One more token. -/
def emit (token : Token) : Scan Unit :=
  modify fun s => { s with tokens := s.tokens.push token }

/-! ## Gaps -/

/-- What stands between two parts of a scalar. -/
structure Gap where
  /-- Blanks within the line. -/
  blanks : List Char := []
  /-- Whether the line ended. -/
  broken : Bool := false
  /-- The first line break. -/
  first : List Char := []
  /-- All further line breaks. -/
  further : List Char := []

/-- What a gap folds to: a single line break becomes a blank, and of several ones the first is
dropped. -/
def Gap.text (gap : Gap) : List Char :=
  if !gap.broken then gap.blanks
  else if gap.first.head? = some '\n' then
    if gap.further.isEmpty then [' '] else gap.further
  else gap.first ++ gap.further

/-- Take blanks and line breaks. Tabs may not stand in front of the column `limit`, where a line
of the scalar starts. -/
def gapFrom (limit : Int) : Nat → Gap → Scan Gap
  | 0, gap => return gap
  | fuel + 1, gap => do
    match ← peek with
    | none => return gap
    | some c =>
      if isSpace c then
        if gap.broken && c = '\t' && ((← column) : Int) < limit then fail
        skip
        -- blanks at the start of a line are indentation and do not count
        gapFrom limit fuel
          (if gap.broken then gap else { gap with blanks := gap.blanks ++ [c] })
      else if isBreak c then
        let text ← readBreak
        gapFrom limit fuel
          (if gap.broken then { gap with further := gap.further ++ text }
            else { broken := true, first := text })
      else return gap

/-- Take blanks and line breaks after a gap that may have begun. -/
def gap (limit : Int) (begun : Gap) : Scan Gap := do
  gapFrom limit ((← rest).length + 1) begun

end RowSignals.Yaml
