import RowSignals.Text.Blank
import RowSignals.Text.DecimalDigit
import RowSignals.Text.Pieces

/-!
# Semantic versions

A semantic version is three numbers joined by points, then a release after a hyphen and a build
after a plus sign, both optional and both identifiers joined by points. A letter `v` may come
first.

The parts cannot run into each other: a plus sign occurs only in front of the build, and the
first hyphen before it ends the numbers. Cutting the text at these signs therefore finds the
parts that a pattern would find by trying, and what remains to be checked are the identifiers
one by one.

* `SemanticVersion`: the parts as they are written.
* `SemanticVersion.isNumber`, `SemanticVersion.isReleaseIdentifier`,
  `SemanticVersion.isBuildIdentifier`: what may stand between the points.
* `SemanticVersion.read?`: the parts of a text; `SemanticVersion.text`: the text of the parts.

The digits of a number after its first one, and those in front of a word, may be of any script:
the class of digits is that of Unicode, while the first digit and the identifiers are spelled
out.
-/

namespace RowSignals

/-- The parts of a semantic version as they are written. -/
structure SemanticVersion where
  major : List Char
  minor : List Char
  patch : List Char
  release : Option (List Char)
  build : Option (List Char)
  deriving Repr, DecidableEq

namespace SemanticVersion

/-- A number without leading zeros, in decimal digits of any script after the first one. -/
def isNumber : List Char → Bool
  | [] => false
  | c :: rest => if c = '0' then rest.isEmpty else c.isDigit && rest.all Text.isDecimalDigit

/-- A character of an identifier. -/
def isIdentifierChar (c : Char) : Bool :=
  c.isAlphanum || c == '-'

/-- An identifier with a letter or hyphen: decimal digits may come before the first one. -/
def isWordIdentifier (cs : List Char) : Bool :=
  match cs.dropWhile Text.isDecimalDigit with
  | [] => false
  | c :: rest => (c.isAlpha || c == '-') && rest.all isIdentifierChar

/-- An identifier of a release. One of digits only is a number. -/
def isReleaseIdentifier (cs : List Char) : Bool :=
  isNumber cs || isWordIdentifier cs

/-- An identifier of a build. -/
def isBuildIdentifier (cs : List Char) : Bool :=
  !cs.isEmpty && cs.all isIdentifierChar

/-- The pieces of a text between points. -/
def pieces (cs : List Char) : List (List Char) :=
  Text.splitOn (· == '.') cs

/-- A text up to a separator, and what follows it. -/
def cutAt (separator : Char) (cs : List Char) : List Char × Option (List Char) :=
  match Text.splitFirst? (· == separator) cs with
  | some (before, after) => (before, some after)
  | none => (cs, none)

/-- A version without the letter in front. -/
def readBare? (cs : List Char) : Option SemanticVersion :=
  -- the build first: a hyphen may stand in it
  let (rest, build) := cutAt '+' cs
  let (numbers, release) := cutAt '-' rest
  match pieces numbers with
  | [major, minor, patch] =>
    if isNumber major && isNumber minor && isNumber patch &&
        release.all (fun r => (pieces r).all isReleaseIdentifier) &&
        build.all (fun b => (pieces b).all isBuildIdentifier) then
      some ⟨major, minor, patch, release, build⟩
    else none
  | _ => none

/-- A version with or without the letter in front. -/
def readBody? : List Char → Option SemanticVersion
  | 'v' :: rest => readBare? rest
  | cs => readBare? cs

/-- The version that a text writes, blanks around it dropped. -/
def read? (raw : String) : Option SemanticVersion :=
  readBody? (Text.trim raw.toList)

/-- The text of a version. -/
def text (v : SemanticVersion) : List Char :=
  v.major ++ '.' :: v.minor ++ '.' :: v.patch ++
    (v.release.elim [] fun r => '-' :: r) ++ (v.build.elim [] fun b => '+' :: b)

end SemanticVersion

end RowSignals
