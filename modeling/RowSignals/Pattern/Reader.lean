import RowSignals.Number.Reading
import RowSignals.Pattern.Cursor
import RowSignals.Pattern.Property
import RowSignals.Pattern.Search

/-!
# Reading patterns

The usual notation: characters stand for themselves, `.` for any of a line, `[…]` for one of a
set, `\` for classes, anchors and characters that would mean something else, `|` for
alternatives, `*`, `+`, `?` and `{m,n}` for repetitions, and parentheses for groups, captures
and flags. There are no conditions on what follows and no references to captures.

* `ReadPattern`: a pattern with the names of its captures.
* `Reading.escape`: what a backslash introduces.
* `Reading.bracketed`: a set in brackets, with sets inside it and operators between them.
* `Reading.repetition?`: how often the part before is repeated.
* `Reading.opening`: what an opening parenthesis opens.
* `Reading.alternatives`: a pattern up to the end of its group.
* `Pattern.read?`: the pattern of a text; `ReadPattern.captures?`: what its captures match.

A pattern of more than `largestCost` instructions is none. The recursive readers take fuel:
every call but a fixed number of them takes a character, so that `Pattern.read?` gives enough.
-/

namespace RowSignals

/-- A pattern and the names of its captures. -/
structure ReadPattern where
  pattern : Pattern
  names : List (String × Nat)
  deriving Repr

namespace Pattern

namespace Reading

/-! ## Sets of characters -/

/-- A set under the flags: with case variants if case does not count. -/
def folded (set : CharSet) : Reading CharSet := do
  let flags ← flags
  if !flags.ignoreCase then return set
  else if flags.unicode then return .folded set
  else return .intersection (.folded set) .ascii

/-- The complement of a set if it is negated. Only in unicode mode every character has its place
in the complement. -/
def negated (negate : Bool) (set : CharSet) : Reading CharSet := do
  if !negate then return set
  else if (← flags).unicode then return .complement set
  else fail

/-- The characters of words. -/
def wordSet : Reading CharSet := do
  if (← flags).unicode then return .wordChars
  else return .ranges [(0x30, 0x39), (0x41, 0x5A), (0x5F, 0x5F), (0x61, 0x7A)]

/-- The class of a letter; a capital letter is its complement. -/
def letterClass (c : Char) : Reading CharSet := do
  let unicode := (← flags).unicode
  let set ← match c.toLower with
    | 'd' => pure (if unicode then .digits else .ranges [(0x30, 0x39)])
    | 's' => pure (if unicode then .blanks else .ranges [(0x09, 0x0D), (0x20, 0x20)])
    | _ => wordSet
  negated c.isUpper set

/-- The classes with names of their own. -/
def namedClass? : String → Option (List (Nat × Nat))
  | "alnum" => some [(0x30, 0x39), (0x41, 0x5A), (0x61, 0x7A)]
  | "alpha" => some [(0x41, 0x5A), (0x61, 0x7A)]
  | "ascii" => some [(0x00, 0x7F)]
  | "blank" => some [(0x09, 0x09), (0x20, 0x20)]
  | "cntrl" => some [(0x00, 0x1F), (0x7F, 0x7F)]
  | "digit" => some [(0x30, 0x39)]
  | "graph" => some [(0x21, 0x7E)]
  | "lower" => some [(0x61, 0x7A)]
  | "print" => some [(0x20, 0x7E)]
  | "punct" => some [(0x21, 0x2F), (0x3A, 0x40), (0x5B, 0x60), (0x7B, 0x7E)]
  | "space" => some [(0x09, 0x0D), (0x20, 0x20)]
  | "upper" => some [(0x41, 0x5A)]
  | "word" => some [(0x30, 0x39), (0x41, 0x5A), (0x5F, 0x5F), (0x61, 0x7A)]
  | "xdigit" => some [(0x30, 0x39), (0x41, 0x46), (0x61, 0x66)]
  | _ => none

/-- A named class such as `[:alpha:]`, or nothing, in which case nothing is taken. -/
def namedClass : Reading (Option CharSet) := do
  let cursor ← get
  let some body := Text.stripStart? "[:".toList cursor.rest | return none
  let (negate, body) := match body with
    | '^' :: body => (true, body)
    | body => (false, body)
  let name := body.takeWhile (· != ':')
  let some rest := Text.stripStart? ":]".toList (body.drop name.length) | return none
  let some items := namedClass? (String.ofList name) | return none
  set { cursor with rest := rest }
  return some (← negated negate (.ranges items))

/-! ## Properties -/

/-- The set of a property in braces or of one letter; a capital letter in front of it is its
complement. -/
def propertyClass (negate : Bool) : Reading CharSet := do
  if !(← flags).unicode then fail
  skip
  let name ← do
    if ← take "\x7b" then
      let cursor ← get
      let name := cursor.rest.takeWhile (· != '}')
      set { cursor with rest := cursor.rest.drop name.length }
      if !(← take "\x7d") then fail
      pure (if cursor.flags.spaced then name.filter (!Text.isBlank ·) else name)
    else
      let c ← next
      pure [c]
  match CharSet.ofProperty? name with
  | some found => negated negate (← folded found)
  | none => fail

/-! ## Escapes -/

/-- The value of a hexadecimal digit. -/
def hexDigit (c : Char) : Reading Nat :=
  if c.isDigit then return c.toNat - '0'.toNat
  else if 'a' ≤ c ∧ c ≤ 'f' then return c.toNat - 'a'.toNat + 10
  else if 'A' ≤ c ∧ c ≤ 'F' then return c.toNat - 'A'.toNat + 10
  else fail

/-- The character of a code point. -/
def scalar (n : Nat) : Reading Char :=
  if n.isValidChar then return Char.ofNat n else fail

/-- The value of hexadecimal digits. -/
def hexNumber (digits : List Char) : Reading Nat :=
  digits.foldlM (fun n c => do return 16 * n + (← hexDigit c)) 0

/-- A character by its code point, in `count` digits or in braces. -/
def codePoint (count : Nat) : Reading Char := do
  skip
  if ← take "\x7b" then
    let cursor ← get
    let body := cursor.rest.takeWhile (· != '}')
    let digits := if cursor.flags.spaced then body.filter (!Text.isBlank ·) else body
    if digits.isEmpty || 8 < digits.length then fail
    set { cursor with rest := cursor.rest.drop body.length }
    if !(← take "\x7d") then fail
    scalar (← hexNumber digits)
  else
    let cursor ← get
    let digits := cursor.rest.take count
    if digits.length < count then fail
    set { cursor with rest := cursor.rest.drop count }
    scalar (← hexNumber digits)

/-- What a backslash introduces. -/
inductive Escape where
  | literal (c : Char)
  | set (set : CharSet)
  | anchor (anchor : Anchor)
  deriving Repr

/-- The kinds of word anchors in braces. -/
def wordAnchor? (word : CharSet) : String → Option Anchor
  | "start" => some (.wordStart word)
  | "end" => some (.wordEnd word)
  | "start-half" => some (.afterGap word)
  | "end-half" => some (.beforeGap word)
  | _ => none

/-- The anchor after `\b`: a kind in braces, or any boundary. -/
def boundary : Reading Anchor := do
  let word ← wordSet
  let cursor ← get
  match cursor.rest with
  -- a brace without a letter may be the bounds of a repetition
  | '{' :: c :: _ =>
    if c.isAlpha || c = '-' then
      let name := (cursor.rest.drop 1).takeWhile (· != '}')
      match wordAnchor? word (String.ofList name) with
      | some anchor =>
        set { cursor with rest := cursor.rest.drop (name.length + 1) }
        if ← take "\x7d" then return anchor else fail
      | none => fail
    else return .boundary word
  | _ => return .boundary word

/-- What follows a backslash. Letters and digits have meanings of their own, all other ASCII
characters stand for themselves. -/
def escape : Reading Escape := do
  let c ← next
  match c with
  | 'x' => return .literal (← codePoint 2)
  | 'u' => return .literal (← codePoint 4)
  | 'U' => return .literal (← codePoint 8)
  | 'd' | 's' | 'w' | 'D' | 'S' | 'W' => return .set (← letterClass c)
  | 'p' | 'P' => return .set (← propertyClass (c = 'P'))
  | 'a' => return .literal '\x07'
  | 'f' => return .literal '\x0c'
  | 't' => return .literal '\t'
  | 'n' => return .literal '\n'
  | 'r' => return .literal '\r'
  | 'v' => return .literal '\x0b'
  | 'A' => return .anchor .textStart
  | 'z' => return .anchor .textEnd
  | 'b' => return .anchor (← boundary)
  | 'B' => return .anchor (.noBoundary (← wordSet))
  | '<' => return .anchor (.wordStart (← wordSet))
  | '>' => return .anchor (.wordEnd (← wordSet))
  | c => if c.toNat < 128 && !c.isAlphanum then return .literal c else fail

/-! ## Sets in brackets -/

/-- An operator between sets. -/
inductive SetOp where
  | intersection
  | difference
  | symmetric
  deriving Repr, DecidableEq

/-- What is pending of a set in brackets: the left side of an operator with the operator, and
the items of the side that is being read. -/
structure PendingSet where
  left : Option (CharSet × SetOp) := none
  items : CharSet := .none

/-- The pending set with one more item. -/
def PendingSet.add (pending : PendingSet) (item : CharSet) : PendingSet :=
  { pending with items := .union pending.items item }

/-- The set of what was read so far. -/
def PendingSet.close (pending : PendingSet) : Reading CharSet := do
  match pending.left with
  | none => return pending.items
  | some (left, op) =>
    let left ← folded left
    let right ← folded pending.items
    match op with
    | .intersection => return .intersection left right
    | .difference => return left.difference right
    | .symmetric => return left.symmetricDifference right

/-- An item of a set: a character or a class. -/
def setItem : Reading Escape := do
  if ← take "\\" then escape else return .literal (← next)

/-- The character after the next one, blanks aside. -/
def peekSecond : Reading (Option Char) := do
  let cursor ← get
  let rest := cursor.rest.drop 1
  return (if cursor.flags.spaced then dropSpacing false rest else rest).head?

/-- A range of characters, or a single item. -/
def setRange : Reading CharSet := do
  let first ← setItem
  skip
  let second ← peekSecond
  -- a hyphen before the closing bracket stands for itself, and two are an operator
  if (← peek) != some '-' || second == some ']' || second == some '-' then
    match first with
    | .literal c => return .single c
    | .set set => return set
    | .anchor _ => fail
  else
    discard nextSkipping
    match first, ← setItem with
    | .literal low, .literal high =>
      if low ≤ high then return .ranges [(low.toNat, high.toNat)] else fail
    | _, _ => fail

/-- The hyphens at the start of a set stand for themselves. -/
def leadingHyphens : Nat → CharSet → Reading CharSet
  | 0, items => return items
  | fuel + 1, items => do
    if (← peek) == some '-' then
      discard nextSkipping
      leadingHyphens fuel (.union items (.single '-'))
    else return items

mutual

/-- A set after its opening bracket. -/
def bracketed : Nat → Reading CharSet
  | 0 => fail
  | fuel + 1 => do
    skip
    let negate ← take "^"
    skip
    -- a closing bracket that comes first stands for itself
    let hyphens ← leadingHyphens fuel .none
    let items ← match hyphens, ← peek with
      | .ranges [], some ']' => do
        discard nextSkipping
        pure (CharSet.single ']')
      | hyphens, _ => pure hyphens
    let set ← setItems fuel { items := items }
    negated negate (← folded set)

/-- The items of a set up to its closing bracket. -/
def setItems : Nat → PendingSet → Reading CharSet
  | 0, _ => fail
  | fuel + 1, pending => do
    skip
    match (← get).rest with
    | ']' :: _ => do
      discard next
      pending.close
    | '[' :: _ => do
      match ← namedClass with
      | some set => setItems fuel (pending.add set)
      | none =>
        discard next
        let set ← bracketed fuel
        setItems fuel (pending.add set)
    | '&' :: '&' :: _ => setOp fuel .intersection pending
    | '-' :: '-' :: _ => setOp fuel .difference pending
    | '~' :: '~' :: _ => setOp fuel .symmetric pending
    | _ => do
      let item ← setRange
      setItems fuel (pending.add item)

/-- An operator between sets, and what follows it. -/
def setOp : Nat → SetOp → PendingSet → Reading CharSet
  | 0, _, _ => fail
  | fuel + 1, op, pending => do
    discard next
    discard next
    let left ← pending.close
    setItems fuel { left := some (left, op) }

end

/-! ## Repetitions -/

/-- A number with blanks around it. -/
def count : Reading Nat := do
  let cursor ← get
  let rest := Text.trimStart cursor.rest
  let digits := rest.takeWhile Char.isDigit
  if digits.isEmpty || 1 <<< 32 ≤ Number.digitsValue digits then fail
  set { cursor with rest := Text.trimStart (rest.drop digits.length) }
  return Number.digitsValue digits

/-- The bounds of a repetition after its opening brace. -/
def bounds : Reading (Nat × Option Nat) := do
  skip
  let least ← count
  skip
  if ← take "," then
    skip
    if ← take "\x7d" then return (least, none)
    let most ← count
    skip
    if (← take "\x7d") && least ≤ most then return (least, some most) else fail
  else if ← take "\x7d" then return (least, some least)
  else fail

/-- How often the part before is repeated, if a repetition comes next. -/
def repetition? : Reading (Option Repetition) := do
  let sizes ← match ← peek with
    | some '*' => do discard next; pure (some (0, none))
    | some '+' => do discard next; pure (some (1, none))
    | some '?' => do discard next; pure (some (0, some 1))
    | some '{' => do discard next; pure (some (← bounds))
    | _ => pure none
  match sizes with
  | none => return none
  | some (least, most) =>
    skip
    let reluctant ← take "?"
    -- the flag exchanges what a question mark after the repetition means
    return some ⟨least, most, reluctant == (← flags).lazy⟩

/-! ## Groups -/

/-- One flag switched on or off. -/
def setFlag (flags : Flags) (on : Bool) : Char → Option Flags
  | 'i' => some { flags with ignoreCase := on }
  | 'm' => some { flags with lines := on }
  | 's' => some { flags with dotAll := on }
  | 'U' => some { flags with lazy := on }
  | 'u' => some { flags with unicode := on }
  | 'R' => some { flags with returns := on }
  | 'x' => some { flags with spaced := on }
  | _ => none

/-- The flags after the letters of a flag group. Letters after a hyphen are switched off; none
may be repeated, and one must follow the hyphen. -/
def setFlags (seen : List Char) (on : Bool) (flags : Flags) : List Char → Option Flags
  | [] => if seen.head? = some '-' then none else some flags
  | c :: rest =>
    if seen.contains c then none
    else if c = '-' then setFlags (c :: seen) false flags rest
    else (setFlag flags on c).bind fun flags => setFlags (c :: seen) on flags rest

/-- Whether a character may stand in the name of a capture. -/
def isNameChar (first : Bool) (c : Char) : Bool :=
  if first then c == '_' || (Text.isAlphanumeric c && !Text.isDecimalDigit c)
  else c == '_' || c == '.' || c == '[' || c == ']' || Text.isAlphanumeric c

/-- The name of a capture up to its closing angle bracket. No two captures have the same
name. -/
def captureName (index : Nat) : Reading Unit := do
  let cursor ← get
  let name := cursor.rest.takeWhile (· != '>')
  let valid := match name with
    | [] => false
    | c :: rest => isNameChar true c && rest.all (isNameChar false)
  let text := String.ofList name
  if !valid || (cursor.names.lookup text).isSome then fail
  set { cursor with
    rest := cursor.rest.drop name.length, names := cursor.names ++ [(text, index)] }
  if !(← take ">") then fail

/-- What an opening parenthesis opens. -/
inductive Opening where
  | capture (index : Nat)
  | group (flags : Flags)
  /-- Flags for the rest of the surrounding group. -/
  | switch (flags : Flags)

/-- A new capture. -/
def openCapture : Reading Nat := do
  let cursor ← get
  set { cursor with captures := cursor.captures + 1 }
  return cursor.captures + 1

/-- What follows an opening parenthesis. -/
def opening : Reading Opening := do
  skip
  -- conditions on what follows or precedes are refused
  if (← take "?=") || (← take "?!") || (← take "?<=") || (← take "?<!") then fail
  if (← take "?P<") || (← take "?<") then
    let index ← openCapture
    captureName index
    return .capture index
  if ← take "?" then
    let cursor ← get
    let letters := cursor.rest.takeWhile fun c => c != ':' && c != ')'
    let some flags := setFlags [] true cursor.flags letters | fail
    set { cursor with rest := cursor.rest.drop letters.length }
    let closing ← next
    if closing = ':' then return .group flags
    else if letters.isEmpty then fail
    else return .switch flags
  return .capture (← openCapture)

/-! ## Patterns -/

/-- Any character, or any of a line. -/
def anyChar : Reading CharSet := do
  let flags ← flags
  if !flags.unicode then fail
  else if flags.dotAll then return .complement .none
  else if flags.returns then return .complement (.ranges [(0x0A, 0x0A), (0x0D, 0x0D)])
  else return .complement (.single '\n')

/-- Change the flags. -/
def switchFlags (flags : Flags) : Reading Unit :=
  modify fun cursor => { cursor with flags := flags }

/-- The pattern of an escape outside brackets. -/
def escaped : Reading Pattern := do
  match ← escape with
  | .literal c => return .one (← folded (.single c))
  | .set set => return .one set
  | .anchor anchor => return .anchored anchor

mutual

/-- Alternatives, up to the end of the group. -/
def alternatives : Nat → Reading Pattern
  | 0 => fail
  | fuel + 1 => do
    let first ← branch fuel []
    if ← take "|" then return .either first (← alternatives fuel)
    else return first

/-- One alternative, after some parts. The second component of a part tells whether it can be
repeated. -/
def branch : Nat → List (Pattern × Bool) → Reading Pattern
  | 0, _ => fail
  | fuel + 1, parts => do
    skip
    match ← peek with
    | none | some '|' | some ')' => return sequence (parts.reverse.map (·.1))
    | _ =>
      match ← repetition? with
      | some count =>
        match parts with
        -- the repetition takes the place of the part read last
        | (part, true) :: parts => branch fuel ((.repeated count part, true) :: parts)
        | _ => fail
      | none =>
        let part ← atom fuel
        branch fuel (part :: parts)

/-- A part that is not repeated. -/
def atom : Nat → Reading (Pattern × Bool)
  | 0 => fail
  | fuel + 1 => do
    let flags ← flags
    match ← next with
    | '(' => do
      match ← opening with
      | .switch flags =>
        switchFlags flags
        return (.empty, false)
      | .group inner =>
        switchFlags inner
        return (← grouped fuel flags, true)
      | .capture index => return (.capture index (← grouped fuel flags), true)
    | '[' => return (.one (← bracketed fuel), true)
    | '.' => return (.one (← anyChar), true)
    | '^' =>
      return (.anchored (if flags.lines then .lineStart flags.returns else .textStart), true)
    | '$' => return (.anchored (if flags.lines then .lineEnd flags.returns else .textEnd), true)
    | '\\' => return (← escaped, true)
    | c => return (.one (← folded (.single c)), true)

/-- The rest of a group, after which the flags around it are in force again. -/
def grouped : Nat → Flags → Reading Pattern
  | 0, _ => fail
  | fuel + 1, outer => do
    let body ← alternatives fuel
    if !(← take ")") then fail
    switchFlags outer
    return body

end

end Reading

/-- The most instructions that a pattern may take. -/
def largestCost : Nat := 300000

/-- The pattern that a text writes. -/
def read? (text : String) : Option ReadPattern := do
  let cs := text.toList
  let (pattern, cursor) ← (Reading.alternatives (4 * cs.length + 8)).run { rest := cs }
  if cursor.rest.isEmpty && pattern.cost ≤ largestCost then some ⟨pattern, cursor.names⟩
  else none

end Pattern

/-- The texts of the named captures of the first match, in the order of the captures. -/
def ReadPattern.captures? (p : ReadPattern) (text : String) : Option (List (String × String)) :=
  let cs := text.toList
  ((Program.ofPattern p.pattern).search cs).map fun notes =>
    p.names.filterMap fun (name, index) =>
      (notes.captured? index cs).map fun value => (name, value)

end RowSignals
