import RowSignals.Pattern.Basic
import RowSignals.Text.Pieces

/-!
# Sets of characters by property

A pattern names sets of characters by what they are: `Letter`, `Nd`, `gc=Punctuation`,
`Alphabetic`. How the words of a name are joined and whether its letters are capital does not
matter.

* `CharSet.plainName`: a name without what does not matter.
* `CharSet.binaryProperty?`: the properties that are no categories, from the categories and the
  two short tables `furtherLowercase` and `furtherUppercase`, which are those of Unicode 16.
* `CharSet.ofProperty?`: the set that a name means.

Scripts and the rarer properties have no names here; a pattern that uses one is no pattern.
-/

namespace RowSignals.CharSet

/-- The ASCII characters. -/
def ascii : CharSet := .ranges [(0, 0x7F)]

/-- The name of a property without blanks, hyphens, underscores and the word `is` in front, in
small letters. -/
def plainName (name : List Char) : String :=
  let body := match name with
    | i :: s :: rest => if i.toLower = 'i' && s.toLower = 's' then rest else name
    | _ => name
  let kept :=
    (body.filter fun c => c.toNat < 128 && c != ' ' && c != '_' && c != '-').map Char.toLower
  -- without its first two letters `isc` would be the name of a category
  if kept = ['c'] && body.length < name.length then "isc" else String.ofList kept

/-- Small letters outside of the category of small letters. -/
def furtherLowercase : CharSet := .ranges [
  (0xAA, 0xAA), (0xBA, 0xBA), (0x2B0, 0x2B8), (0x2C0, 0x2C1), (0x2E0, 0x2E4), (0x345, 0x345),
  (0x37A, 0x37A), (0x10FC, 0x10FC), (0x1D2C, 0x1D6A), (0x1D78, 0x1D78), (0x1D9B, 0x1DBF),
  (0x2071, 0x2071), (0x207F, 0x207F), (0x2090, 0x209C), (0x2170, 0x217F), (0x24D0, 0x24E9),
  (0x2C7C, 0x2C7D), (0xA69C, 0xA69D), (0xA770, 0xA770), (0xA7F2, 0xA7F4), (0xA7F8, 0xA7F9),
  (0xAB5C, 0xAB5F), (0xAB69, 0xAB69), (0x10780, 0x10780), (0x10783, 0x10785),
  (0x10787, 0x107B0), (0x107B2, 0x107BA), (0x1E030, 0x1E06D)]

/-- Capital letters outside of the category of capital letters. -/
def furtherUppercase : CharSet := .ranges [
  (0x2160, 0x216F), (0x24B6, 0x24CF), (0x1F130, 0x1F149), (0x1F150, 0x1F169),
  (0x1F170, 0x1F189)]

/-- The characters that have a property which is no category. -/
def binaryProperty? : String → Option CharSet
  | "alphabetic" | "alpha" =>
    some (difference .alphanumerics (.categories [.decimalNumber, .otherNumber]))
  | "lowercase" | "lower" => some (.union (.categories [.lowercaseLetter]) furtherLowercase)
  | "uppercase" | "upper" => some (.union (.categories [.uppercaseLetter]) furtherUppercase)
  | "whitespace" | "wspace" | "space" => some .blanks
  | _ => .none

/-- The characters of a category or a group of categories. -/
def categorySet? (name : String) : Option CharSet :=
  if name = "ascii" then some ascii
  else (Text.GeneralCategory.groupOfName? name).map .categories

/-- The characters that a property name means: a property, or a category with or without the
word for categories in front. -/
def ofProperty? (text : List Char) : Option CharSet :=
  match Text.splitFirst? (fun c => c == ':' || c == '=') text with
  | .none => (binaryProperty? (plainName text)).or (categorySet? (plainName text))
  | some (key, value) =>
    -- a name and its value may also be joined by `!=`
    let negated := key.getLast? = some '!'
    let keyName := plainName (if negated then key.dropLast else key)
    if keyName = "gc" || keyName = "generalcategory" then
      (categorySet? (plainName value)).map fun set => if negated then .complement set else set
    else .none

end RowSignals.CharSet
