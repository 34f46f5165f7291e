import RowSignals.Number.Reading
import RowSignals.Json.Reader
import RowSignals.Yaml.Cursor

/-!
# Scanning scalars

The texts of scalars, with their line breaks folded and their escapes replaced.

* `plainScalar`: text without quotes, which ends where the syntax around it goes on.
* `quotedScalar`: text in single or double quotes.
* `blockScalar`: the indented lines after a vertical bar or an angle bracket.

What a plain scalar means is not decided here (`Yaml.Plain`). That it is plain is kept in its
token, since a text in quotes is never a number.
-/

namespace RowSignals.Yaml

/-! ## Plain scalars -/

/-- Characters that end a plain scalar inside a flow collection. -/
def isFlowMark (c : Char) : Bool :=
  c == ',' || c == '[' || c == ']' || c == '{' || c == '}'

/-- The part of a plain scalar up to the next blank, and what follows it; a colon in a flow
collection may not stand before a mark of that collection. -/
def plainRun (inFlow : Bool) : List Char → Option (List Char)
  | [] => some []
  | c :: rest =>
    if isSpace c || isBreak c then some []
    else if inFlow && c = ':' && rest.head?.any (fun d => isFlowMark d || d == '?') then none
    else if c = ':' && startsBlank rest then some []
    else if inFlow && isFlowMark c then some []
    else (plainRun inFlow rest).map (c :: ·)

/-- The rest of a plain scalar after a text and a gap. -/
def plainFrom (limit : Int) : Nat → List Char → Gap → Scan (List Char)
  | 0, text, _ => return text
  | fuel + 1, text, before => do
    let finish : Scan (List Char) := do
      if before.broken then modify fun s => { s with keyAllowed := true }
      return text
    let s ← get
    -- a comment starts only after a gap, and a line further left ends a scalar of a block
    if (← atMarker) || s.rest.head? = some '#' ||
        (s.flow = 0 && before.broken && (s.mark.column : Int) < limit) then
      finish
    else
      let some run := plainRun (0 < s.flow) s.rest | fail
      if run.isEmpty then finish
      else
        skipMany run.length
        let text := text ++ before.text ++ run
        match ← peek with
        | some c =>
          if isSpace c || isBreak c then plainFrom limit fuel text (← gap limit {})
          else return text
        | none => return text

/-- A plain scalar. -/
def plainScalar : Scan Token := do
  let s ← get
  return .scalar true (← plainFrom (s.indent + 1) (s.rest.length + 1) [] {})

/-! ## Quoted scalars -/

/-- The value of hexadecimal digits. -/
def hexNumber? (digits : List Char) : Option Nat :=
  digits.foldlM (fun n c => (Json.hexValue? c).map (16 * n + ·)) 0

/-- A character by its code point in `count` digits after the letter of an escape. -/
def codePoint (count : Nat) : Scan Char := do
  let digits := (← rest).take count
  if digits.length < count then fail
  let some n := hexNumber? digits | fail
  if !n.isValidChar then fail
  skipMany count
  return Char.ofNat n

/-- The characters that a single letter after a backslash stands for. -/
def escapedChar? : Char → Option Char
  | '0' => some '\x00'
  | 'a' => some '\x07'
  | 'b' => some '\x08'
  | 't' => some '\t'
  | '\t' => some '\t'
  | 'n' => some '\n'
  | 'v' => some '\x0b'
  | 'f' => some '\x0c'
  | 'r' => some '\r'
  | 'e' => some '\x1b'
  | ' ' => some ' '
  | '"' => some '"'
  | '/' => some '/'
  | '\\' => some '\\'
  | 'N' => some (Char.ofNat 0x85)
  | '_' => some (Char.ofNat 0xA0)
  | 'L' => some (Char.ofNat 0x2028)
  | 'P' => some (Char.ofNat 0x2029)
  | _ => none

/-- An escape after its backslash. -/
def escape : Scan Char := do
  let some c ← peek | fail
  skip
  match c with
  | 'x' => codePoint 2
  | 'u' => codePoint 4
  | 'U' => codePoint 8
  | c =>
    match escapedChar? c with
    | some d => return d
    | none => fail

/-- A quoted scalar after its opening quote and a text. A backslash at the end of a line drops
the line break. -/
def quotedFrom (quote : Char) : Nat → List Char → Scan (List Char)
  | 0, _ => fail
  | fuel + 1, text => do
    if ← atMarker then fail
    match ← rest with
    | [] => fail
    | c :: after =>
      if c = quote then
        skip
        -- two single quotes stand for one
        if quote = '\x27' && after.head? = some quote then
          skip
          quotedFrom quote fuel (text ++ [quote])
        else return text
      else if quote = '"' && c = '\\' then
        skip
        if after.head?.any isBreak then
          skipBreak
          let between ← gap 0 { broken := true }
          quotedFrom quote fuel (text ++ between.text)
        else quotedFrom quote fuel (text ++ [← escape])
      else if isSpace c || isBreak c then
        let between ← gap 0 {}
        quotedFrom quote fuel (text ++ between.text)
      else
        skip
        quotedFrom quote fuel (text ++ [c])

/-- A scalar in quotes. -/
def quotedScalar (quote : Char) : Scan Token := do
  skip
  return .scalar false (← quotedFrom quote ((← rest).length + 1) [])

/-! ## Block scalars -/

/-- What becomes of the line breaks at the end of a block scalar. -/
inductive Chomping where
  | strip
  | clip
  | keep
  deriving Repr, DecidableEq

/-- The signs after the one that opens a block scalar: chomping and a number of columns, in any
order. -/
def blockHeader : Scan (Chomping × Option Nat) := do
  let chomping : Scan (Option Chomping) := do
    match ← peek with
    | some '+' => do skip; return some .keep
    | some '-' => do skip; return some .strip
    | _ => return none
  let columns : Scan (Option Nat) := do
    match ← peek with
    | some c =>
      if c = '0' then fail
      else if c.isDigit then
        skip
        return some (c.toNat - '0'.toNat)
      else return none
    | none => return none
  match ← chomping with
  | some chomp => return (chomp, ← columns)
  | none =>
    let count ← columns
    return ((← chomping).getD .clip, count)

/-- The rest of a line that may hold a comment only. -/
def lineEnd : Scan Unit := do
  discard (takeWhile isSpace)
  if (← peek) = some '#' then discard (takeWhile (!isBreak ·))
  match ← peek with
  | none => pure ()
  | some c => if isBreak c then skipBreak else fail

/-- The empty lines before a line of a block scalar. The result is their line breaks and the
largest column that was reached. Tabs may not stand where blanks are expected. -/
def emptyLines (limit : Option Nat) : Nat → List Char → Nat → Scan (List Char × Nat)
  | 0, breaks, widest => return (breaks, widest)
  | fuel + 1, breaks, widest => do
    let s ← get
    let blanks := s.rest.takeWhile (· == ' ')
    let count := match limit with
      | some n => min blanks.length (n - s.mark.column)
      | none => blanks.length
    skipMany count
    let reached ← column
    match ← peek with
    | some c =>
      if c = '\t' && limit.all (reached < ·) then fail
      else if isBreak c then
        let text ← readBreak
        emptyLines limit fuel (breaks ++ text) (max widest reached)
      else return (breaks, max widest reached)
    | none => return (breaks, max widest reached)

/-- The lines of a block scalar from a line on, after a text, its last line break, and the empty
lines since. -/
def blockLines (literal : Bool) (indent : Nat) (chomping : Chomping) :
    Nat → List Char → List Char → List Char → Bool → Scan (List Char)
  | 0, text, _, _, _ => return text
  | fuel + 1, text, last, breaks, afterBlank => do
    let s ← get
    if s.mark.column ≠ indent || s.rest.isEmpty then
      match chomping with
      | .strip => return text
      | .clip => return text ++ last
      | .keep => return text ++ last ++ breaks
    else
      let startsWithBlank := s.rest.head?.any isSpace
      -- a line break between two lines that start without blanks folds to a blank, or to
      -- nothing before empty lines
      let folds := !literal && last.head? = some '\n' && !afterBlank && !startsWithBlank
      let joint := if folds then (if breaks.isEmpty then [' '] else []) else last
      let line ← takeWhile (!isBreak ·)
      let last ← readBreak
      let (further, _) ← emptyLines (some indent) ((← rest).length + 1) [] 0
      blockLines literal indent chomping fuel (text ++ joint ++ breaks ++ line) last further
        startsWithBlank

/-- A block scalar, literal or folded. Unless a number of columns is given, its first line that
is not empty says how far it is indented. -/
def blockScalar (literal : Bool) : Scan Token := do
  skip
  let (chomping, columns) ← blockHeader
  lineEnd
  let s ← get
  -- a number of columns is counted from the collection around the scalar
  let limit := columns.map fun n => if 0 ≤ s.indent then s.indent.toNat + n else n
  let (breaks, widest) ← emptyLines limit (s.rest.length + 1) [] 0
  let indent := limit.getD (max (max widest (s.indent + 1).toNat) 1)
  return .scalar false
    (← blockLines literal indent chomping (s.rest.length + 1) [] [] breaks false)

end RowSignals.Yaml
