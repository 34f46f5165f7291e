import RowSignals.Yaml.Scalar

/-!
# From characters to tokens

A scan reads one token after the other. Two things need care, since they are seen only
afterwards: that a token was a mapping key is known when a colon follows it, and that a block
collection has ended is known when something stands further left.

* `keyCandidate`, `dropCandidate`: tokens that may become keys. The place of a candidate among
  the tokens is remembered, and when it turns out to be a key, the tokens that say so are put in
  front of it.
* `openBlock`, `closeBlocks`: indentation, as a stack of columns.
* `nextToken`: one step of a scan.
* `tokens?`: all tokens of a text.

Inside brackets indentation means nothing. The stack of columns rests there, and only the
candidates of the innermost collection count.
-/

namespace RowSignals.Yaml

/-! ## Mapping keys -/

/-- Remember the next token as a possible key, if keys are allowed here. -/
def keyCandidate : Scan Unit := do
  let s ← get
  if s.keyAllowed then
    -- in the column of an open block mapping nothing but another key can stand
    let required := s.flow = 0 && s.indent == (s.mark.column : Int)
    match s.candidates with
    | old :: outer =>
      if old.any (·.required) then fail
      set { s with candidates := some ⟨required, s.tokens.size, s.mark⟩ :: outer }
    | [] => fail

/-- The innermost candidate is no key; it may not have been required. -/
def dropCandidate : Scan Unit := do
  let s ← get
  match s.candidates with
  | old :: outer =>
    if old.any (·.required) then fail
    set { s with candidates := none :: outer }
  | [] => fail

/-- Whether a candidate is still on this line and near enough. -/
def KeyCandidate.isNear (candidate : KeyCandidate) (mark : Mark) : Bool :=
  -- a key without a question mark takes at most 1024 characters of one line
  candidate.mark.line == mark.line && mark.index ≤ candidate.mark.index + 1024

/-- Give up the candidates that are too far away. -/
def dropDistant : Scan Unit := do
  let s ← get
  let distant (candidate : KeyCandidate) : Bool := !candidate.isNear s.mark
  if s.candidates.any (·.any fun candidate => candidate.required && distant candidate) then fail
  set { s with
    candidates := s.candidates.map (Option.filter fun candidate => !distant candidate) }

/-- Allow or forbid keys from here on. -/
def allowKey (allowed : Bool) : Scan Unit :=
  modify fun s => { s with keyAllowed := allowed }

/-! ## Indentation -/

/-- Put a token in front of the tokens after the first `count` ones. -/
def insertToken (count : Nat) (token : Token) (tokens : Array Token) : Array Token :=
  (tokens.toList.take count ++ token :: tokens.toList.drop count).toArray

/-- Open a block collection at a column, if it is further right than the innermost one. -/
def openBlock (column tokensBefore : Nat) (token : Token) : Scan Unit := do
  let s ← get
  if s.flow = 0 && s.indent < (column : Int) then
    set { s with
      indent := column
      indents := s.indent :: s.indents
      tokens := insertToken tokensBefore token s.tokens }

/-- Close the block collections further right than a column. -/
def closeBlocks (column : Int) : Scan Unit :=
  modify fun s =>
    if s.flow ≠ 0 then s
    else closeFrom s.indents s
where
  closeFrom : List Int → Cursor → Cursor
    | [], s => s
    | outer :: indents, s =>
      if column < s.indent then
        closeFrom indents
          { s with indent := outer, indents := indents, tokens := s.tokens.push .blockEnd }
      else s

/-! ## Between tokens -/

/-- Skip blanks, comments and line breaks. Outside of flow collections, a new line may start a
key; a tab may not stand where a key may start. -/
def skipSpace : Nat → Scan Unit
  | 0 => pure ()
  | fuel + 1 => do
    let s ← get
    discard (takeWhile fun c => c == ' ' || (c == '\t' && (s.flow != 0 || !s.keyAllowed)))
    if (← peek) = some '#' then discard (takeWhile (!isBreak ·))
    if (← peek).any isBreak then
      skipBreak
      if (← get).flow = 0 then allowKey true
      skipSpace fuel

/-! ## Tokens -/

/-- A character that may stand in the name of an anchor. -/
def isAnchorChar (c : Char) : Bool := c.isAlphanum || c == '_' || c == '-'

/-- The name of an anchor or alias. -/
def anchorName : Scan (List Char) := do
  skip
  let name ← takeWhile isAnchorChar
  let ended := startsBlank (← rest) || (← peek).any fun c => "?:,]\x7d%@`".contains c
  if name.isEmpty || !ended then fail
  return name

/-- A character that may stand in a tag. -/
def isTagChar (inFlow : Bool) (c : Char) : Bool :=
  c.isAlphanum || "-_;/?:@&=+$.!~*'()%".contains c ||
    (!inFlow && (c == ',' || c == '[' || c == ']'))

/-- A tag. -/
def tagText : Scan (List Char) := do
  let inFlow := 0 < (← get).flow
  let text ← do
    if Text.stripStart? "!<".toList (← rest) |>.isSome then
      skipMany 2
      let body ← takeWhile fun c => isTagChar false c && c != '>'
      if (← peek) != some '>' then fail
      skip
      pure ('!' :: '<' :: body)
    else takeWhile (isTagChar inFlow)
  if startsBlank (← rest) || (inFlow && (← peek) = some ',') then return text else fail

/-- A number in decimal digits. -/
def number : Scan Nat := do
  let digits ← takeWhile Char.isDigit
  if digits.isEmpty || 9 < digits.length then fail
  return Number.digitsValue digits

/-- A directive. -/
def directive : Scan Unit := do
  skip
  let name ← takeWhile Char.isAlphanum
  discard (takeWhile isSpace)
  match String.ofList name with
  | "YAML" =>
    let major ← number
    if (← peek) != some '.' then fail
    skip
    emit (.version major (← number))
  | "TAG" =>
    let handle ← takeWhile fun c => c.isAlphanum || c == '!' || c == '-' || c == '_'
    discard (takeWhile isSpace)
    let start ← takeWhile (isTagChar false)
    if handle.head? != some '!' || handle.getLast? != some '!' || start.isEmpty then fail
    emit (.tagHandle handle start)
  | _ => fail
  lineEnd

/-- A marker of three characters. -/
def marker (token : Token) : Scan Unit := do
  closeBlocks (-1)
  dropCandidate
  allowKey false
  skipMany 3
  emit token

/-- The start of a flow collection. -/
def openFlow (token : Token) : Scan Unit := do
  keyCandidate
  modify fun s => { s with flow := s.flow + 1, candidates := none :: s.candidates }
  allowKey true
  skip
  emit token

/-- The end of a flow collection. -/
def closeFlow (token : Token) : Scan Unit := do
  dropCandidate
  -- a bracket too many is left to the reader of nodes, which finds nothing that it closes
  modify fun s =>
    if s.flow = 0 then s
    else { s with flow := s.flow - 1, candidates := s.candidates.drop 1 }
  allowKey false
  skip
  emit token

/-- A comma. -/
def flowEntry : Scan Unit := do
  dropCandidate
  allowKey true
  skip
  emit .flowEntry

/-- A sign that needs a new line outside of flow collections, and opens a block collection
there. -/
def openBlockHere (token : Token) : Scan Unit := do
  let s ← get
  if s.flow = 0 then
    if !s.keyAllowed then fail
    openBlock s.mark.column s.tokens.size token

/-- A hyphen. -/
def blockEntry : Scan Unit := do
  openBlockHere .blockSequenceStart
  dropCandidate
  allowKey true
  skip
  emit .blockEntry

/-- A question mark. -/
def explicitKey : Scan Unit := do
  openBlockHere .blockMappingStart
  dropCandidate
  allowKey ((← get).flow = 0)
  skip
  emit .key

/-- A colon. What was a candidate becomes a key. -/
def mappingValue : Scan Unit := do
  let s ← get
  match s.candidates with
  | some candidate :: outer =>
    set { s with
      tokens := insertToken candidate.tokensBefore .key s.tokens
      candidates := none :: outer }
    -- the start of the mapping goes in front of the key that was just put in
    openBlock candidate.mark.column candidate.tokensBefore .blockMappingStart
    allowKey false
  | _ =>
    openBlockHere .blockMappingStart
    allowKey (s.flow = 0)
  skip
  emit .value

/-- A token that may become a key. -/
def keyToken (scan : Scan Token) : Scan Unit := do
  keyCandidate
  allowKey false
  emit (← scan)

/-- A block scalar. -/
def blockText (literal : Bool) : Scan Unit := do
  dropCandidate
  allowKey true
  emit (← blockScalar literal)

/-- Whether a plain scalar starts with a character, given the text after it. -/
def startsPlain (inFlow : Bool) (c : Char) (after : List Char) : Bool :=
  if c = '-' then !after.head?.any isSpace
  else if c = '?' || c = ':' then !inFlow && !startsBlank after
  else !isSpace c && !isBreak c && !",[]\x7b\x7d#&*!|>'\"%@`".contains c

/-- One step of a scan: skip to the next token and read it. The result tells whether there was
one. -/
def nextToken : Scan Bool := do
  skipSpace ((← rest).length + 1)
  dropDistant
  closeBlocks ((← column) : Int)
  let s ← get
  let inFlow := 0 < s.flow
  match s.rest with
  | [] => do
    closeBlocks (-1)
    dropCandidate
    return false
  | c :: after => do
    -- a hyphen, a question mark or a colon is a sign only if nothing is attached to it
    let breaksOff := startsBlank after
    if s.mark.column = 0 && c = '%' then
      closeBlocks (-1)
      dropCandidate
      allowKey false
      directive
    else if ← atMarker then marker (if c = '-' then .documentStart else .documentEnd)
    else if c = '[' then openFlow .flowSequenceStart
    else if c = '\x7b' then openFlow .flowMappingStart
    else if c = ']' then closeFlow .flowSequenceEnd
    else if c = '\x7d' then closeFlow .flowMappingEnd
    else if c = ',' then flowEntry
    else if c = '-' && breaksOff then blockEntry
    else if c = '?' && (inFlow || breaksOff) then explicitKey
    else if c = ':' && (inFlow || breaksOff) then mappingValue
    else if c = '*' then keyToken do return .alias (← anchorName)
    else if c = '&' then keyToken do return .anchor (← anchorName)
    else if c = '!' then keyToken do return .tag (← tagText)
    else if c = '|' && !inFlow then blockText true
    else if c = '>' && !inFlow then blockText false
    else if c = '\x27' || c = '"' then keyToken (quotedScalar c)
    else if startsPlain inFlow c after then keyToken plainScalar
    else fail
    return true

/-- All tokens up to the end of the text. -/
def allTokens : Nat → Scan Unit
  | 0 => fail
  | fuel + 1 => do
    if ← nextToken then allTokens fuel

/-- The tokens of a text; none if it is no YAML. -/
def tokens? (text : String) : Option (List Token) :=
  let cs := match text.toList with
    -- a mark of the byte order at the start is no part of the text
    | c :: rest => if c.toNat = 0xFEFF then rest else c :: rest
    | [] => []
  if cs.all isAllowed then
    ((allTokens (cs.length + 2)).run (.ofText cs)).map fun (_, cursor) => cursor.tokens.toList
  else none

end RowSignals.Yaml
