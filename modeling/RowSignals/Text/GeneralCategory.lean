import RowSignals.Text.Ranges

/-!
# General categories

Every code point has one general category: a kind of letter, mark, number, punctuation, symbol,
separator or other character. Patterns ask for them by name, in braces or by one letter.

* `GeneralCategory`: the categories; `GeneralCategory.groupOfName?`: those that a name stands
  for.
* `categoryRuns`: where the categories change, in Unicode 16.
* `generalCategory`: the category of a character.

A table of ranges for each category would list every boundary twice. So there is one table of
the places where one category ends and the next begins. In the alphabets that put a capital
letter and its small letter side by side, a run of such pairs counts as one.
-/

namespace RowSignals.Text

/-- A kind of code points. -/
inductive GeneralCategory where
  | uppercaseLetter | lowercaseLetter | titlecaseLetter | modifierLetter | otherLetter
  | nonspacingMark | spacingMark | enclosingMark | decimalNumber | letterNumber | otherNumber
  | connectorPunctuation | dashPunctuation | openPunctuation | closePunctuation
  | initialPunctuation | finalPunctuation | otherPunctuation | mathSymbol | currencySymbol
  | modifierSymbol | otherSymbol | spaceSeparator | lineSeparator | paragraphSeparator | control
  | format | surrogate | privateUse | unassigned
  deriving Repr, DecidableEq

namespace GeneralCategory

/-- The categories in the order of their numbers in `categoryRuns`. -/
def all : List GeneralCategory := [
  .uppercaseLetter, .lowercaseLetter, .titlecaseLetter, .modifierLetter, .otherLetter,
  .nonspacingMark, .spacingMark, .enclosingMark, .decimalNumber, .letterNumber, .otherNumber,
  .connectorPunctuation, .dashPunctuation, .openPunctuation, .closePunctuation,
  .initialPunctuation, .finalPunctuation, .otherPunctuation, .mathSymbol, .currencySymbol,
  .modifierSymbol, .otherSymbol, .spaceSeparator, .lineSeparator, .paragraphSeparator, .control,
  .format, .surrogate, .privateUse, .unassigned]

/-- The names of a category in small letters, without what joins their words: the short one and
the long ones. -/
def names : GeneralCategory → List String
  | .uppercaseLetter => ["lu", "uppercaseletter"]
  | .lowercaseLetter => ["ll", "lowercaseletter"]
  | .titlecaseLetter => ["lt", "titlecaseletter"]
  | .modifierLetter => ["lm", "modifierletter"]
  | .otherLetter => ["lo", "otherletter"]
  | .nonspacingMark => ["mn", "nonspacingmark"]
  | .spacingMark => ["mc", "spacingmark"]
  | .enclosingMark => ["me", "enclosingmark"]
  | .decimalNumber => ["nd", "decimalnumber", "digit"]
  | .letterNumber => ["nl", "letternumber"]
  | .otherNumber => ["no", "othernumber"]
  | .connectorPunctuation => ["pc", "connectorpunctuation"]
  | .dashPunctuation => ["pd", "dashpunctuation"]
  | .openPunctuation => ["ps", "openpunctuation"]
  | .closePunctuation => ["pe", "closepunctuation"]
  | .initialPunctuation => ["pi", "initialpunctuation"]
  | .finalPunctuation => ["pf", "finalpunctuation"]
  | .otherPunctuation => ["po", "otherpunctuation"]
  | .mathSymbol => ["sm", "mathsymbol"]
  | .currencySymbol => ["sc", "currencysymbol"]
  | .modifierSymbol => ["sk", "modifiersymbol"]
  | .otherSymbol => ["so", "othersymbol"]
  | .spaceSeparator => ["zs", "spaceseparator"]
  | .lineSeparator => ["zl", "lineseparator"]
  | .paragraphSeparator => ["zp", "paragraphseparator"]
  | .control => ["cc", "control", "cntrl"]
  | .format => ["cf", "format"]
  | .surrogate => ["cs", "surrogate"]
  | .privateUse => ["co", "privateuse"]
  | .unassigned => ["cn", "unassigned"]

/-- The letters that have another case. -/
def cased : List GeneralCategory := [.uppercaseLetter, .lowercaseLetter, .titlecaseLetter]

/-- The names of groups of categories, with the letter that starts the short names of their
categories. -/
def groups : List (List String × Char) := [
  (["l", "letter"], 'l'), (["m", "mark", "combiningmark"], 'm'), (["n", "number"], 'n'),
  (["p", "punctuation", "punct"], 'p'), (["s", "symbol"], 's'), (["z", "separator"], 'z'),
  (["c", "other"], 'c')]

/-- Whether the short name of a category starts with a letter. -/
def isOfGroup (letter : Char) (category : GeneralCategory) : Bool :=
  category.names.head?.any fun name => name.toList.head? = some letter

/-- The categories that a name stands for. No character is a surrogate, which therefore has no
name here. -/
def groupOfName? (name : String) : Option (List GeneralCategory) :=
  if name = "any" then some all
  else if name = "assigned" then some (all.filter (· != .unassigned))
  else if name = "lc" || name = "casedletter" then some cased
  else
    match groups.find? (·.1.contains name) with
    | some (_, letter) => some (all.filter (isOfGroup letter))
    | none =>
      (all.find? fun category => category != .surrogate && category.names.contains name).map
        fun category => [category]

end GeneralCategory

set_option maxRecDepth 20000 in
/-- The first code point of every run of one category, in ascending order, with the number of
the category. The number after the last category marks a run in which capital and small letters
take turns. -/
def categoryRuns : Array (Nat × Nat) := #[
  (0x0, 25), (0x20, 22), (0x21, 17), (0x24, 19), (0x25, 17), (0x28, 13), (0x29, 14), (0x2A, 17),
  (0x2B, 18), (0x2C, 17), (0x2D, 12), (0x2E, 17), (0x30, 8), (0x3A, 17), (0x3C, 18), (0x3F, 17),
  (0x41, 0), (0x5B, 13), (0x5C, 17), (0x5D, 14), (0x5E, 20), (0x5F, 11), (0x60, 20), (0x61, 1),
  (0x7B, 13), (0x7C, 18), (0x7D, 14), (0x7E, 18), (0x7F, 25), (0xA0, 22), (0xA1, 17),
  (0xA2, 19), (0xA6, 21), (0xA7, 17), (0xA8, 20), (0xA9, 21), (0xAA, 4), (0xAB, 15), (0xAC, 18),
  (0xAD, 26), (0xAE, 21), (0xAF, 20), (0xB0, 21), (0xB1, 18), (0xB2, 10), (0xB4, 20), (0xB5, 1),
  (0xB6, 17), (0xB8, 20), (0xB9, 10), (0xBA, 4), (0xBB, 16), (0xBC, 10), (0xBF, 17), (0xC0, 0),
  (0xD7, 18), (0xD8, 0), (0xDF, 1), (0xF7, 18), (0xF8, 1), (0x100, 30), (0x136, 0), (0x137, 1),
  (0x139, 30), (0x147, 0), (0x148, 1), (0x14A, 30), (0x178, 0), (0x17A, 1), (0x17B, 0),
  (0x17C, 1), (0x17D, 0), (0x17E, 1), (0x181, 0), (0x183, 1), (0x184, 0), (0x185, 1),
  (0x186, 0), (0x188, 1), (0x189, 0), (0x18C, 1), (0x18E, 0), (0x192, 1), (0x193, 0),
  (0x195, 1), (0x196, 0), (0x199, 1), (0x19C, 0), (0x19E, 1), (0x19F, 0), (0x1A1, 1),
  (0x1A2, 30), (0x1A6, 0), (0x1A8, 1), (0x1A9, 0), (0x1AA, 1), (0x1AC, 0), (0x1AD, 1),
  (0x1AE, 0), (0x1B0, 1), (0x1B1, 0), (0x1B4, 1), (0x1B5, 0), (0x1B6, 1), (0x1B7, 0),
  (0x1B9, 1), (0x1BB, 4), (0x1BC, 0), (0x1BD, 1), (0x1C0, 4), (0x1C4, 0), (0x1C5, 2),
  (0x1C6, 1), (0x1C7, 0), (0x1C8, 2), (0x1C9, 1), (0x1CA, 0), (0x1CB, 2), (0x1CC, 1),
  (0x1CD, 30), (0x1DB, 0), (0x1DC, 1), (0x1DE, 30), (0x1EE, 0), (0x1EF, 1), (0x1F1, 0),
  (0x1F2, 2), (0x1F3, 1), (0x1F4, 0), (0x1F5, 1), (0x1F6, 0), (0x1F9, 1), (0x1FA, 30),
  (0x232, 0), (0x233, 1), (0x23A, 0), (0x23C, 1), (0x23D, 0), (0x23F, 1), (0x241, 0),
  (0x242, 1), (0x243, 0), (0x247, 1), (0x248, 30), (0x24E, 0), (0x24F, 1), (0x294, 4),
  (0x295, 1), (0x2B0, 3), (0x2C2, 20), (0x2C6, 3), (0x2D2, 20), (0x2E0, 3), (0x2E5, 20),
  (0x2EC, 3), (0x2ED, 20), (0x2EE, 3), (0x2EF, 20), (0x300, 5), (0x370, 30), (0x374, 3),
  (0x375, 20), (0x376, 0), (0x377, 1), (0x378, 29), (0x37A, 3), (0x37B, 1), (0x37E, 17),
  (0x37F, 0), (0x380, 29), (0x384, 20), (0x386, 0), (0x387, 17), (0x388, 0), (0x38B, 29),
  (0x38C, 0), (0x38D, 29), (0x38E, 0), (0x390, 1), (0x391, 0), (0x3A2, 29), (0x3A3, 0),
  (0x3AC, 1), (0x3CF, 0), (0x3D0, 1), (0x3D2, 0), (0x3D5, 1), (0x3D8, 30), (0x3EE, 0),
  (0x3EF, 1), (0x3F4, 0), (0x3F5, 1), (0x3F6, 18), (0x3F7, 0), (0x3F8, 1), (0x3F9, 0),
  (0x3FB, 1), (0x3FD, 0), (0x430, 1), (0x460, 30), (0x482, 21), (0x483, 5), (0x488, 7),
  (0x48A, 30), (0x4C0, 0), (0x4C2, 1), (0x4C3, 30), (0x4CD, 0), (0x4CE, 1), (0x4D0, 30),
  (0x530, 29), (0x531, 0), (0x557, 29), (0x559, 3), (0x55A, 17), (0x560, 1), (0x589, 17),
  (0x58A, 12), (0x58B, 29), (0x58D, 21), (0x58F, 19), (0x590, 29), (0x591, 5), (0x5BE, 12),
  (0x5BF, 5), (0x5C0, 17), (0x5C1, 5), (0x5C3, 17), (0x5C4, 5), (0x5C6, 17), (0x5C7, 5),
  (0x5C8, 29), (0x5D0, 4), (0x5EB, 29), (0x5EF, 4), (0x5F3, 17), (0x5F5, 29), (0x600, 26),
  (0x606, 18), (0x609, 17), (0x60B, 19), (0x60C, 17), (0x60E, 21), (0x610, 5), (0x61B, 17),
  (0x61C, 26), (0x61D, 17), (0x620, 4), (0x640, 3), (0x641, 4), (0x64B, 5), (0x660, 8),
  (0x66A, 17), (0x66E, 4), (0x670, 5), (0x671, 4), (0x6D4, 17), (0x6D5, 4), (0x6D6, 5),
  (0x6DD, 26), (0x6DE, 21), (0x6DF, 5), (0x6E5, 3), (0x6E7, 5), (0x6E9, 21), (0x6EA, 5),
  (0x6EE, 4), (0x6F0, 8), (0x6FA, 4), (0x6FD, 21), (0x6FF, 4), (0x700, 17), (0x70E, 29),
  (0x70F, 26), (0x710, 4), (0x711, 5), (0x712, 4), (0x730, 5), (0x74B, 29), (0x74D, 4),
  (0x7A6, 5), (0x7B1, 4), (0x7B2, 29), (0x7C0, 8), (0x7CA, 4), (0x7EB, 5), (0x7F4, 3),
  (0x7F6, 21), (0x7F7, 17), (0x7FA, 3), (0x7FB, 29), (0x7FD, 5), (0x7FE, 19), (0x800, 4),
  (0x816, 5), (0x81A, 3), (0x81B, 5), (0x824, 3), (0x825, 5), (0x828, 3), (0x829, 5),
  (0x82E, 29), (0x830, 17), (0x83F, 29), (0x840, 4), (0x859, 5), (0x85C, 29), (0x85E, 17),
  (0x85F, 29), (0x860, 4), (0x86B, 29), (0x870, 4), (0x888, 20), (0x889, 4), (0x88F, 29),
  (0x890, 26), (0x892, 29), (0x897, 5), (0x8A0, 4), (0x8C9, 3), (0x8CA, 5), (0x8E2, 26),
  (0x8E3, 5), (0x903, 6), (0x904, 4), (0x93A, 5), (0x93B, 6), (0x93C, 5), (0x93D, 4),
  (0x93E, 6), (0x941, 5), (0x949, 6), (0x94D, 5), (0x94E, 6), (0x950, 4), (0x951, 5),
  (0x958, 4), (0x962, 5), (0x964, 17), (0x966, 8), (0x970, 17), (0x971, 3), (0x972, 4),
  (0x981, 5), (0x982, 6), (0x984, 29), (0x985, 4), (0x98D, 29), (0x98F, 4), (0x991, 29),
  (0x993, 4), (0x9A9, 29), (0x9AA, 4), (0x9B1, 29), (0x9B2, 4), (0x9B3, 29), (0x9B6, 4),
  (0x9BA, 29), (0x9BC, 5), (0x9BD, 4), (0x9BE, 6), (0x9C1, 5), (0x9C5, 29), (0x9C7, 6),
  (0x9C9, 29), (0x9CB, 6), (0x9CD, 5), (0x9CE, 4), (0x9CF, 29), (0x9D7, 6), (0x9D8, 29),
  (0x9DC, 4), (0x9DE, 29), (0x9DF, 4), (0x9E2, 5), (0x9E4, 29), (0x9E6, 8), (0x9F0, 4),
  (0x9F2, 19), (0x9F4, 10), (0x9FA, 21), (0x9FB, 19), (0x9FC, 4), (0x9FD, 17), (0x9FE, 5),
  (0x9FF, 29), (0xA01, 5), (0xA03, 6), (0xA04, 29), (0xA05, 4), (0xA0B, 29), (0xA0F, 4),
  (0xA11, 29), (0xA13, 4), (0xA29, 29), (0xA2A, 4), (0xA31, 29), (0xA32, 4), (0xA34, 29),
  (0xA35, 4), (0xA37, 29), (0xA38, 4), (0xA3A, 29), (0xA3C, 5), (0xA3D, 29), (0xA3E, 6),
  (0xA41, 5), (0xA43, 29), (0xA47, 5), (0xA49, 29), (0xA4B, 5), (0xA4E, 29), (0xA51, 5),
  (0xA52, 29), (0xA59, 4), (0xA5D, 29), (0xA5E, 4), (0xA5F, 29), (0xA66, 8), (0xA70, 5),
  (0xA72, 4), (0xA75, 5), (0xA76, 17), (0xA77, 29), (0xA81, 5), (0xA83, 6), (0xA84, 29),
  (0xA85, 4), (0xA8E, 29), (0xA8F, 4), (0xA92, 29), (0xA93, 4), (0xAA9, 29), (0xAAA, 4),
  (0xAB1, 29), (0xAB2, 4), (0xAB4, 29), (0xAB5, 4), (0xABA, 29), (0xABC, 5), (0xABD, 4),
  (0xABE, 6), (0xAC1, 5), (0xAC6, 29), (0xAC7, 5), (0xAC9, 6), (0xACA, 29), (0xACB, 6),
  (0xACD, 5), (0xACE, 29), (0xAD0, 4), (0xAD1, 29), (0xAE0, 4), (0xAE2, 5), (0xAE4, 29),
  (0xAE6, 8), (0xAF0, 17), (0xAF1, 19), (0xAF2, 29), (0xAF9, 4), (0xAFA, 5), (0xB00, 29),
  (0xB01, 5), (0xB02, 6), (0xB04, 29), (0xB05, 4), (0xB0D, 29), (0xB0F, 4), (0xB11, 29),
  (0xB13, 4), (0xB29, 29), (0xB2A, 4), (0xB31, 29), (0xB32, 4), (0xB34, 29), (0xB35, 4),
  (0xB3A, 29), (0xB3C, 5), (0xB3D, 4), (0xB3E, 6), (0xB3F, 5), (0xB40, 6), (0xB41, 5),
  (0xB45, 29), (0xB47, 6), (0xB49, 29), (0xB4B, 6), (0xB4D, 5), (0xB4E, 29), (0xB55, 5),
  (0xB57, 6), (0xB58, 29), (0xB5C, 4), (0xB5E, 29), (0xB5F, 4), (0xB62, 5), (0xB64, 29),
  (0xB66, 8), (0xB70, 21), (0xB71, 4), (0xB72, 10), (0xB78, 29), (0xB82, 5), (0xB83, 4),
  (0xB84, 29), (0xB85, 4), (0xB8B, 29), (0xB8E, 4), (0xB91, 29), (0xB92, 4), (0xB96, 29),
  (0xB99, 4), (0xB9B, 29), (0xB9C, 4), (0xB9D, 29), (0xB9E, 4), (0xBA0, 29), (0xBA3, 4),
  (0xBA5, 29), (0xBA8, 4), (0xBAB, 29), (0xBAE, 4), (0xBBA, 29), (0xBBE, 6), (0xBC0, 5),
  (0xBC1, 6), (0xBC3, 29), (0xBC6, 6), (0xBC9, 29), (0xBCA, 6), (0xBCD, 5), (0xBCE, 29),
  (0xBD0, 4), (0xBD1, 29), (0xBD7, 6), (0xBD8, 29), (0xBE6, 8), (0xBF0, 10), (0xBF3, 21),
  (0xBF9, 19), (0xBFA, 21), (0xBFB, 29), (0xC00, 5), (0xC01, 6), (0xC04, 5), (0xC05, 4),
  (0xC0D, 29), (0xC0E, 4), (0xC11, 29), (0xC12, 4), (0xC29, 29), (0xC2A, 4), (0xC3A, 29),
  (0xC3C, 5), (0xC3D, 4), (0xC3E, 5), (0xC41, 6), (0xC45, 29), (0xC46, 5), (0xC49, 29),
  (0xC4A, 5), (0xC4E, 29), (0xC55, 5), (0xC57, 29), (0xC58, 4), (0xC5B, 29), (0xC5D, 4),
  (0xC5E, 29), (0xC60, 4), (0xC62, 5), (0xC64, 29), (0xC66, 8), (0xC70, 29), (0xC77, 17),
  (0xC78, 10), (0xC7F, 21), (0xC80, 4), (0xC81, 5), (0xC82, 6), (0xC84, 17), (0xC85, 4),
  (0xC8D, 29), (0xC8E, 4), (0xC91, 29), (0xC92, 4), (0xCA9, 29), (0xCAA, 4), (0xCB4, 29),
  (0xCB5, 4), (0xCBA, 29), (0xCBC, 5), (0xCBD, 4), (0xCBE, 6), (0xCBF, 5), (0xCC0, 6),
  (0xCC5, 29), (0xCC6, 5), (0xCC7, 6), (0xCC9, 29), (0xCCA, 6), (0xCCC, 5), (0xCCE, 29),
  (0xCD5, 6), (0xCD7, 29), (0xCDD, 4), (0xCDF, 29), (0xCE0, 4), (0xCE2, 5), (0xCE4, 29),
  (0xCE6, 8), (0xCF0, 29), (0xCF1, 4), (0xCF3, 6), (0xCF4, 29), (0xD00, 5), (0xD02, 6),
  (0xD04, 4), (0xD0D, 29), (0xD0E, 4), (0xD11, 29), (0xD12, 4), (0xD3B, 5), (0xD3D, 4),
  (0xD3E, 6), (0xD41, 5), (0xD45, 29), (0xD46, 6), (0xD49, 29), (0xD4A, 6), (0xD4D, 5),
  (0xD4E, 4), (0xD4F, 21), (0xD50, 29), (0xD54, 4), (0xD57, 6), (0xD58, 10), (0xD5F, 4),
  (0xD62, 5), (0xD64, 29), (0xD66, 8), (0xD70, 10), (0xD79, 21), (0xD7A, 4), (0xD80, 29),
  (0xD81, 5), (0xD82, 6), (0xD84, 29), (0xD85, 4), (0xD97, 29), (0xD9A, 4), (0xDB2, 29),
  (0xDB3, 4), (0xDBC, 29), (0xDBD, 4), (0xDBE, 29), (0xDC0, 4), (0xDC7, 29), (0xDCA, 5),
  (0xDCB, 29), (0xDCF, 6), (0xDD2, 5), (0xDD5, 29), (0xDD6, 5), (0xDD7, 29), (0xDD8, 6),
  (0xDE0, 29), (0xDE6, 8), (0xDF0, 29), (0xDF2, 6), (0xDF4, 17), (0xDF5, 29), (0xE01, 4),
  (0xE31, 5), (0xE32, 4), (0xE34, 5), (0xE3B, 29), (0xE3F, 19), (0xE40, 4), (0xE46, 3),
  (0xE47, 5), (0xE4F, 17), (0xE50, 8), (0xE5A, 17), (0xE5C, 29), (0xE81, 4), (0xE83, 29),
  (0xE84, 4), (0xE85, 29), (0xE86, 4), (0xE8B, 29), (0xE8C, 4), (0xEA4, 29), (0xEA5, 4),
  (0xEA6, 29), (0xEA7, 4), (0xEB1, 5), (0xEB2, 4), (0xEB4, 5), (0xEBD, 4), (0xEBE, 29),
  (0xEC0, 4), (0xEC5, 29), (0xEC6, 3), (0xEC7, 29), (0xEC8, 5), (0xECF, 29), (0xED0, 8),
  (0xEDA, 29), (0xEDC, 4), (0xEE0, 29), (0xF00, 4), (0xF01, 21), (0xF04, 17), (0xF13, 21),
  (0xF14, 17), (0xF15, 21), (0xF18, 5), (0xF1A, 21), (0xF20, 8), (0xF2A, 10), (0xF34, 21),
  (0xF35, 5), (0xF36, 21), (0xF37, 5), (0xF38, 21), (0xF39, 5), (0xF3A, 13), (0xF3B, 14),
  (0xF3C, 13), (0xF3D, 14), (0xF3E, 6), (0xF40, 4), (0xF48, 29), (0xF49, 4), (0xF6D, 29),
  (0xF71, 5), (0xF7F, 6), (0xF80, 5), (0xF85, 17), (0xF86, 5), (0xF88, 4), (0xF8D, 5),
  (0xF98, 29), (0xF99, 5), (0xFBD, 29), (0xFBE, 21), (0xFC6, 5), (0xFC7, 21), (0xFCD, 29),
  (0xFCE, 21), (0xFD0, 17), (0xFD5, 21), (0xFD9, 17), (0xFDB, 29), (0x1000, 4), (0x102B, 6),
  (0x102D, 5), (0x1031, 6), (0x1032, 5), (0x1038, 6), (0x1039, 5), (0x103B, 6), (0x103D, 5),
  (0x103F, 4), (0x1040, 8), (0x104A, 17), (0x1050, 4), (0x1056, 6), (0x1058, 5), (0x105A, 4),
  (0x105E, 5), (0x1061, 4), (0x1062, 6), (0x1065, 4), (0x1067, 6), (0x106E, 4), (0x1071, 5),
  (0x1075, 4), (0x1082, 5), (0x1083, 6), (0x1085, 5), (0x1087, 6), (0x108D, 5), (0x108E, 4),
  (0x108F, 6), (0x1090, 8), (0x109A, 6), (0x109D, 5), (0x109E, 21), (0x10A0, 0), (0x10C6, 29),
  (0x10C7, 0), (0x10C8, 29), (0x10CD, 0), (0x10CE, 29), (0x10D0, 1), (0x10FB, 17), (0x10FC, 3),
  (0x10FD, 1), (0x1100, 4), (0x1249, 29), (0x124A, 4), (0x124E, 29), (0x1250, 4), (0x1257, 29),
  (0x1258, 4), (0x1259, 29), (0x125A, 4), (0x125E, 29), (0x1260, 4), (0x1289, 29), (0x128A, 4),
  (0x128E, 29), (0x1290, 4), (0x12B1, 29), (0x12B2, 4), (0x12B6, 29), (0x12B8, 4), (0x12BF, 29),
  (0x12C0, 4), (0x12C1, 29), (0x12C2, 4), (0x12C6, 29), (0x12C8, 4), (0x12D7, 29), (0x12D8, 4),
  (0x1311, 29), (0x1312, 4), (0x1316, 29), (0x1318, 4), (0x135B, 29), (0x135D, 5), (0x1360, 17),
  (0x1369, 10), (0x137D, 29), (0x1380, 4), (0x1390, 21), (0x139A, 29), (0x13A0, 0),
  (0x13F6, 29), (0x13F8, 1), (0x13FE, 29), (0x1400, 12), (0x1401, 4), (0x166D, 21),
  (0x166E, 17), (0x166F, 4), (0x1680, 22), (0x1681, 4), (0x169B, 13), (0x169C, 14),
  (0x169D, 29), (0x16A0, 4), (0x16EB, 17), (0x16EE, 9), (0x16F1, 4), (0x16F9, 29), (0x1700, 4),
  (0x1712, 5), (0x1715, 6), (0x1716, 29), (0x171F, 4), (0x1732, 5), (0x1734, 6), (0x1735, 17),
  (0x1737, 29), (0x1740, 4), (0x1752, 5), (0x1754, 29), (0x1760, 4), (0x176D, 29), (0x176E, 4),
  (0x1771, 29), (0x1772, 5), (0x1774, 29), (0x1780, 4), (0x17B4, 5), (0x17B6, 6), (0x17B7, 5),
  (0x17BE, 6), (0x17C6, 5), (0x17C7, 6), (0x17C9, 5), (0x17D4, 17), (0x17D7, 3), (0x17D8, 17),
  (0x17DB, 19), (0x17DC, 4), (0x17DD, 5), (0x17DE, 29), (0x17E0, 8), (0x17EA, 29), (0x17F0, 10),
  (0x17FA, 29), (0x1800, 17), (0x1806, 12), (0x1807, 17), (0x180B, 5), (0x180E, 26),
  (0x180F, 5), (0x1810, 8), (0x181A, 29), (0x1820, 4), (0x1843, 3), (0x1844, 4), (0x1879, 29),
  (0x1880, 4), (0x1885, 5), (0x1887, 4), (0x18A9, 5), (0x18AA, 4), (0x18AB, 29), (0x18B0, 4),
  (0x18F6, 29), (0x1900, 4), (0x191F, 29), (0x1920, 5), (0x1923, 6), (0x1927, 5), (0x1929, 6),
  (0x192C, 29), (0x1930, 6), (0x1932, 5), (0x1933, 6), (0x1939, 5), (0x193C, 29), (0x1940, 21),
  (0x1941, 29), (0x1944, 17), (0x1946, 8), (0x1950, 4), (0x196E, 29), (0x1970, 4), (0x1975, 29),
  (0x1980, 4), (0x19AC, 29), (0x19B0, 4), (0x19CA, 29), (0x19D0, 8), (0x19DA, 10), (0x19DB, 29),
  (0x19DE, 21), (0x1A00, 4), (0x1A17, 5), (0x1A19, 6), (0x1A1B, 5), (0x1A1C, 29), (0x1A1E, 17),
  (0x1A20, 4), (0x1A55, 6), (0x1A56, 5), (0x1A57, 6), (0x1A58, 5), (0x1A5F, 29), (0x1A60, 5),
  (0x1A61, 6), (0x1A62, 5), (0x1A63, 6), (0x1A65, 5), (0x1A6D, 6), (0x1A73, 5), (0x1A7D, 29),
  (0x1A7F, 5), (0x1A80, 8), (0x1A8A, 29), (0x1A90, 8), (0x1A9A, 29), (0x1AA0, 17), (0x1AA7, 3),
  (0x1AA8, 17), (0x1AAE, 29), (0x1AB0, 5), (0x1ABE, 7), (0x1ABF, 5), (0x1ACF, 29), (0x1B00, 5),
  (0x1B04, 6), (0x1B05, 4), (0x1B34, 5), (0x1B35, 6), (0x1B36, 5), (0x1B3B, 6), (0x1B3C, 5),
  (0x1B3D, 6), (0x1B42, 5), (0x1B43, 6), (0x1B45, 4), (0x1B4D, 29), (0x1B4E, 17), (0x1B50, 8),
  (0x1B5A, 17), (0x1B61, 21), (0x1B6B, 5), (0x1B74, 21), (0x1B7D, 17), (0x1B80, 5), (0x1B82, 6),
  (0x1B83, 4), (0x1BA1, 6), (0x1BA2, 5), (0x1BA6, 6), (0x1BA8, 5), (0x1BAA, 6), (0x1BAB, 5),
  (0x1BAE, 4), (0x1BB0, 8), (0x1BBA, 4), (0x1BE6, 5), (0x1BE7, 6), (0x1BE8, 5), (0x1BEA, 6),
  (0x1BED, 5), (0x1BEE, 6), (0x1BEF, 5), (0x1BF2, 6), (0x1BF4, 29), (0x1BFC, 17), (0x1C00, 4),
  (0x1C24, 6), (0x1C2C, 5), (0x1C34, 6), (0x1C36, 5), (0x1C38, 29), (0x1C3B, 17), (0x1C40, 8),
  (0x1C4A, 29), (0x1C4D, 4), (0x1C50, 8), (0x1C5A, 4), (0x1C78, 3), (0x1C7E, 17), (0x1C80, 1),
  (0x1C89, 0), (0x1C8A, 1), (0x1C8B, 29), (0x1C90, 0), (0x1CBB, 29), (0x1CBD, 0), (0x1CC0, 17),
  (0x1CC8, 29), (0x1CD0, 5), (0x1CD3, 17), (0x1CD4, 5), (0x1CE1, 6), (0x1CE2, 5), (0x1CE9, 4),
  (0x1CED, 5), (0x1CEE, 4), (0x1CF4, 5), (0x1CF5, 4), (0x1CF7, 6), (0x1CF8, 5), (0x1CFA, 4),
  (0x1CFB, 29), (0x1D00, 1), (0x1D2C, 3), (0x1D6B, 1), (0x1D78, 3), (0x1D79, 1), (0x1D9B, 3),
  (0x1DC0, 5), (0x1E00, 30), (0x1E94, 0), (0x1E95, 1), (0x1E9E, 30), (0x1EFE, 0), (0x1EFF, 1),
  (0x1F08, 0), (0x1F10, 1), (0x1F16, 29), (0x1F18, 0), (0x1F1E, 29), (0x1F20, 1), (0x1F28, 0),
  (0x1F30, 1), (0x1F38, 0), (0x1F40, 1), (0x1F46, 29), (0x1F48, 0), (0x1F4E, 29), (0x1F50, 1),
  (0x1F58, 29), (0x1F59, 0), (0x1F5A, 29), (0x1F5B, 0), (0x1F5C, 29), (0x1F5D, 0), (0x1F5E, 29),
  (0x1F5F, 0), (0x1F60, 1), (0x1F68, 0), (0x1F70, 1), (0x1F7E, 29), (0x1F80, 1), (0x1F88, 2),
  (0x1F90, 1), (0x1F98, 2), (0x1FA0, 1), (0x1FA8, 2), (0x1FB0, 1), (0x1FB5, 29), (0x1FB6, 1),
  (0x1FB8, 0), (0x1FBC, 2), (0x1FBD, 20), (0x1FBE, 1), (0x1FBF, 20), (0x1FC2, 1), (0x1FC5, 29),
  (0x1FC6, 1), (0x1FC8, 0), (0x1FCC, 2), (0x1FCD, 20), (0x1FD0, 1), (0x1FD4, 29), (0x1FD6, 1),
  (0x1FD8, 0), (0x1FDC, 29), (0x1FDD, 20), (0x1FE0, 1), (0x1FE8, 0), (0x1FED, 20), (0x1FF0, 29),
  (0x1FF2, 1), (0x1FF5, 29), (0x1FF6, 1), (0x1FF8, 0), (0x1FFC, 2), (0x1FFD, 20), (0x1FFF, 29),
  (0x2000, 22), (0x200B, 26), (0x2010, 12), (0x2016, 17), (0x2018, 15), (0x2019, 16),
  (0x201A, 13), (0x201B, 15), (0x201D, 16), (0x201E, 13), (0x201F, 15), (0x2020, 17),
  (0x2028, 23), (0x2029, 24), (0x202A, 26), (0x202F, 22), (0x2030, 17), (0x2039, 15),
  (0x203A, 16), (0x203B, 17), (0x203F, 11), (0x2041, 17), (0x2044, 18), (0x2045, 13),
  (0x2046, 14), (0x2047, 17), (0x2052, 18), (0x2053, 17), (0x2054, 11), (0x2055, 17),
  (0x205F, 22), (0x2060, 26), (0x2065, 29), (0x2066, 26), (0x2070, 10), (0x2071, 3),
  (0x2072, 29), (0x2074, 10), (0x207A, 18), (0x207D, 13), (0x207E, 14), (0x207F, 3),
  (0x2080, 10), (0x208A, 18), (0x208D, 13), (0x208E, 14), (0x208F, 29), (0x2090, 3),
  (0x209D, 29), (0x20A0, 19), (0x20C1, 29), (0x20D0, 5), (0x20DD, 7), (0x20E1, 5), (0x20E2, 7),
  (0x20E5, 5), (0x20F1, 29), (0x2100, 21), (0x2102, 0), (0x2103, 21), (0x2107, 0), (0x2108, 21),
  (0x210A, 1), (0x210B, 0), (0x210E, 1), (0x2110, 0), (0x2113, 1), (0x2114, 21), (0x2115, 0),
  (0x2116, 21), (0x2118, 18), (0x2119, 0), (0x211E, 21), (0x2124, 0), (0x2125, 21), (0x2126, 0),
  (0x2127, 21), (0x2128, 0), (0x2129, 21), (0x212A, 0), (0x212E, 21), (0x212F, 1), (0x2130, 0),
  (0x2134, 1), (0x2135, 4), (0x2139, 1), (0x213A, 21), (0x213C, 1), (0x213E, 0), (0x2140, 18),
  (0x2145, 0), (0x2146, 1), (0x214A, 21), (0x214B, 18), (0x214C, 21), (0x214E, 1), (0x214F, 21),
  (0x2150, 10), (0x2160, 9), (0x2183, 0), (0x2184, 1), (0x2185, 9), (0x2189, 10), (0x218A, 21),
  (0x218C, 29), (0x2190, 18), (0x2195, 21), (0x219A, 18), (0x219C, 21), (0x21A0, 18),
  (0x21A1, 21), (0x21A3, 18), (0x21A4, 21), (0x21A6, 18), (0x21A7, 21), (0x21AE, 18),
  (0x21AF, 21), (0x21CE, 18), (0x21D0, 21), (0x21D2, 18), (0x21D3, 21), (0x21D4, 18),
  (0x21D5, 21), (0x21F4, 18), (0x2300, 21), (0x2308, 13), (0x2309, 14), (0x230A, 13),
  (0x230B, 14), (0x230C, 21), (0x2320, 18), (0x2322, 21), (0x2329, 13), (0x232A, 14),
  (0x232B, 21), (0x237C, 18), (0x237D, 21), (0x239B, 18), (0x23B4, 21), (0x23DC, 18),
  (0x23E2, 21), (0x242A, 29), (0x2440, 21), (0x244B, 29), (0x2460, 10), (0x249C, 21),
  (0x24EA, 10), (0x2500, 21), (0x25B7, 18), (0x25B8, 21), (0x25C1, 18), (0x25C2, 21),
  (0x25F8, 18), (0x2600, 21), (0x266F, 18), (0x2670, 21), (0x2768, 13), (0x2769, 14),
  (0x276A, 13), (0x276B, 14), (0x276C, 13), (0x276D, 14), (0x276E, 13), (0x276F, 14),
  (0x2770, 13), (0x2771, 14), (0x2772, 13), (0x2773, 14), (0x2774, 13), (0x2775, 14),
  (0x2776, 10), (0x2794, 21), (0x27C0, 18), (0x27C5, 13), (0x27C6, 14), (0x27C7, 18),
  (0x27E6, 13), (0x27E7, 14), (0x27E8, 13), (0x27E9, 14), (0x27EA, 13), (0x27EB, 14),
  (0x27EC, 13), (0x27ED, 14), (0x27EE, 13), (0x27EF, 14), (0x27F0, 18), (0x2800, 21),
  (0x2900, 18), (0x2983, 13), (0x2984, 14), (0x2985, 13), (0x2986, 14), (0x2987, 13),
  (0x2988, 14), (0x2989, 13), (0x298A, 14), (0x298B, 13), (0x298C, 14), (0x298D, 13),
  (0x298E, 14), (0x298F, 13), (0x2990, 14), (0x2991, 13), (0x2992, 14), (0x2993, 13),
  (0x2994, 14), (0x2995, 13), (0x2996, 14), (0x2997, 13), (0x2998, 14), (0x2999, 18),
  (0x29D8, 13), (0x29D9, 14), (0x29DA, 13), (0x29DB, 14), (0x29DC, 18), (0x29FC, 13),
  (0x29FD, 14), (0x29FE, 18), (0x2B00, 21), (0x2B30, 18), (0x2B45, 21), (0x2B47, 18),
  (0x2B4D, 21), (0x2B74, 29), (0x2B76, 21), (0x2B96, 29), (0x2B97, 21), (0x2C00, 0),
  (0x2C30, 1), (0x2C60, 0), (0x2C61, 1), (0x2C62, 0), (0x2C65, 1), (0x2C67, 30), (0x2C6D, 0),
  (0x2C71, 1), (0x2C72, 0), (0x2C73, 1), (0x2C75, 0), (0x2C76, 1), (0x2C7C, 3), (0x2C7E, 0),
  (0x2C81, 1), (0x2C82, 30), (0x2CE2, 0), (0x2CE3, 1), (0x2CE5, 21), (0x2CEB, 30), (0x2CEF, 5),
  (0x2CF2, 0), (0x2CF3, 1), (0x2CF4, 29), (0x2CF9, 17), (0x2CFD, 10), (0x2CFE, 17), (0x2D00, 1),
  (0x2D26, 29), (0x2D27, 1), (0x2D28, 29), (0x2D2D, 1), (0x2D2E, 29), (0x2D30, 4), (0x2D68, 29),
  (0x2D6F, 3), (0x2D70, 17), (0x2D71, 29), (0x2D7F, 5), (0x2D80, 4), (0x2D97, 29), (0x2DA0, 4),
  (0x2DA7, 29), (0x2DA8, 4), (0x2DAF, 29), (0x2DB0, 4), (0x2DB7, 29), (0x2DB8, 4), (0x2DBF, 29),
  (0x2DC0, 4), (0x2DC7, 29), (0x2DC8, 4), (0x2DCF, 29), (0x2DD0, 4), (0x2DD7, 29), (0x2DD8, 4),
  (0x2DDF, 29), (0x2DE0, 5), (0x2E00, 17), (0x2E02, 15), (0x2E03, 16), (0x2E04, 15),
  (0x2E05, 16), (0x2E06, 17), (0x2E09, 15), (0x2E0A, 16), (0x2E0B, 17), (0x2E0C, 15),
  (0x2E0D, 16), (0x2E0E, 17), (0x2E17, 12), (0x2E18, 17), (0x2E1A, 12), (0x2E1B, 17),
  (0x2E1C, 15), (0x2E1D, 16), (0x2E1E, 17), (0x2E20, 15), (0x2E21, 16), (0x2E22, 13),
  (0x2E23, 14), (0x2E24, 13), (0x2E25, 14), (0x2E26, 13), (0x2E27, 14), (0x2E28, 13),
  (0x2E29, 14), (0x2E2A, 17), (0x2E2F, 3), (0x2E30, 17), (0x2E3A, 12), (0x2E3C, 17),
  (0x2E40, 12), (0x2E41, 17), (0x2E42, 13), (0x2E43, 17), (0x2E50, 21), (0x2E52, 17),
  (0x2E55, 13), (0x2E56, 14), (0x2E57, 13), (0x2E58, 14), (0x2E59, 13), (0x2E5A, 14),
  (0x2E5B, 13), (0x2E5C, 14), (0x2E5D, 12), (0x2E5E, 29), (0x2E80, 21), (0x2E9A, 29),
  (0x2E9B, 21), (0x2EF4, 29), (0x2F00, 21), (0x2FD6, 29), (0x2FF0, 21), (0x3000, 22),
  (0x3001, 17), (0x3004, 21), (0x3005, 3), (0x3006, 4), (0x3007, 9), (0x3008, 13), (0x3009, 14),
  (0x300A, 13), (0x300B, 14), (0x300C, 13), (0x300D, 14), (0x300E, 13), (0x300F, 14),
  (0x3010, 13), (0x3011, 14), (0x3012, 21), (0x3014, 13), (0x3015, 14), (0x3016, 13),
  (0x3017, 14), (0x3018, 13), (0x3019, 14), (0x301A, 13), (0x301B, 14), (0x301C, 12),
  (0x301D, 13), (0x301E, 14), (0x3020, 21), (0x3021, 9), (0x302A, 5), (0x302E, 6), (0x3030, 12),
  (0x3031, 3), (0x3036, 21), (0x3038, 9), (0x303B, 3), (0x303C, 4), (0x303D, 17), (0x303E, 21),
  (0x3040, 29), (0x3041, 4), (0x3097, 29), (0x3099, 5), (0x309B, 20), (0x309D, 3), (0x309F, 4),
  (0x30A0, 12), (0x30A1, 4), (0x30FB, 17), (0x30FC, 3), (0x30FF, 4), (0x3100, 29), (0x3105, 4),
  (0x3130, 29), (0x3131, 4), (0x318F, 29), (0x3190, 21), (0x3192, 10), (0x3196, 21),
  (0x31A0, 4), (0x31C0, 21), (0x31E6, 29), (0x31EF, 21), (0x31F0, 4), (0x3200, 21),
  (0x321F, 29), (0x3220, 10), (0x322A, 21), (0x3248, 10), (0x3250, 21), (0x3251, 10),
  (0x3260, 21), (0x3280, 10), (0x328A, 21), (0x32B1, 10), (0x32C0, 21), (0x3400, 4),
  (0x4DC0, 21), (0x4E00, 4), (0xA015, 3), (0xA016, 4), (0xA48D, 29), (0xA490, 21), (0xA4C7, 29),
  (0xA4D0, 4), (0xA4F8, 3), (0xA4FE, 17), (0xA500, 4), (0xA60C, 3), (0xA60D, 17), (0xA610, 4),
  (0xA620, 8), (0xA62A, 4), (0xA62C, 29), (0xA640, 30), (0xA66E, 4), (0xA66F, 5), (0xA670, 7),
  (0xA673, 17), (0xA674, 5), (0xA67E, 17), (0xA67F, 3), (0xA680, 30), (0xA69C, 3), (0xA69E, 5),
  (0xA6A0, 4), (0xA6E6, 9), (0xA6F0, 5), (0xA6F2, 17), (0xA6F8, 29), (0xA700, 20), (0xA717, 3),
  (0xA720, 20), (0xA722, 30), (0xA72E, 0), (0xA72F, 1), (0xA732, 30), (0xA770, 3), (0xA771, 1),
  (0xA779, 30), (0xA77D, 0), (0xA77F, 1), (0xA780, 30), (0xA788, 3), (0xA789, 20), (0xA78B, 30),
  (0xA78F, 4), (0xA790, 0), (0xA791, 1), (0xA792, 0), (0xA793, 1), (0xA796, 30), (0xA7AA, 0),
  (0xA7AF, 1), (0xA7B0, 0), (0xA7B5, 1), (0xA7B6, 30), (0xA7C4, 0), (0xA7C8, 1), (0xA7C9, 0),
  (0xA7CA, 1), (0xA7CB, 0), (0xA7CD, 1), (0xA7CE, 29), (0xA7D0, 0), (0xA7D1, 1), (0xA7D2, 29),
  (0xA7D3, 1), (0xA7D4, 29), (0xA7D5, 1), (0xA7D6, 30), (0xA7DC, 0), (0xA7DD, 29), (0xA7F2, 3),
  (0xA7F5, 0), (0xA7F6, 1), (0xA7F7, 4), (0xA7F8, 3), (0xA7FA, 1), (0xA7FB, 4), (0xA802, 5),
  (0xA803, 4), (0xA806, 5), (0xA807, 4), (0xA80B, 5), (0xA80C, 4), (0xA823, 6), (0xA825, 5),
  (0xA827, 6), (0xA828, 21), (0xA82C, 5), (0xA82D, 29), (0xA830, 10), (0xA836, 21),
  (0xA838, 19), (0xA839, 21), (0xA83A, 29), (0xA840, 4), (0xA874, 17), (0xA878, 29),
  (0xA880, 6), (0xA882, 4), (0xA8B4, 6), (0xA8C4, 5), (0xA8C6, 29), (0xA8CE, 17), (0xA8D0, 8),
  (0xA8DA, 29), (0xA8E0, 5), (0xA8F2, 4), (0xA8F8, 17), (0xA8FB, 4), (0xA8FC, 17), (0xA8FD, 4),
  (0xA8FF, 5), (0xA900, 8), (0xA90A, 4), (0xA926, 5), (0xA92E, 17), (0xA930, 4), (0xA947, 5),
  (0xA952, 6), (0xA954, 29), (0xA95F, 17), (0xA960, 4), (0xA97D, 29), (0xA980, 5), (0xA983, 6),
  (0xA984, 4), (0xA9B3, 5), (0xA9B4, 6), (0xA9B6, 5), (0xA9BA, 6), (0xA9BC, 5), (0xA9BE, 6),
  (0xA9C1, 17), (0xA9CE, 29), (0xA9CF, 3), (0xA9D0, 8), (0xA9DA, 29), (0xA9DE, 17), (0xA9E0, 4),
  (0xA9E5, 5), (0xA9E6, 3), (0xA9E7, 4), (0xA9F0, 8), (0xA9FA, 4), (0xA9FF, 29), (0xAA00, 4),
  (0xAA29, 5), (0xAA2F, 6), (0xAA31, 5), (0xAA33, 6), (0xAA35, 5), (0xAA37, 29), (0xAA40, 4),
  (0xAA43, 5), (0xAA44, 4), (0xAA4C, 5), (0xAA4D, 6), (0xAA4E, 29), (0xAA50, 8), (0xAA5A, 29),
  (0xAA5C, 17), (0xAA60, 4), (0xAA70, 3), (0xAA71, 4), (0xAA77, 21), (0xAA7A, 4), (0xAA7B, 6),
  (0xAA7C, 5), (0xAA7D, 6), (0xAA7E, 4), (0xAAB0, 5), (0xAAB1, 4), (0xAAB2, 5), (0xAAB5, 4),
  (0xAAB7, 5), (0xAAB9, 4), (0xAABE, 5), (0xAAC0, 4), (0xAAC1, 5), (0xAAC2, 4), (0xAAC3, 29),
  (0xAADB, 4), (0xAADD, 3), (0xAADE, 17), (0xAAE0, 4), (0xAAEB, 6), (0xAAEC, 5), (0xAAEE, 6),
  (0xAAF0, 17), (0xAAF2, 4), (0xAAF3, 3), (0xAAF5, 6), (0xAAF6, 5), (0xAAF7, 29), (0xAB01, 4),
  (0xAB07, 29), (0xAB09, 4), (0xAB0F, 29), (0xAB11, 4), (0xAB17, 29), (0xAB20, 4), (0xAB27, 29),
  (0xAB28, 4), (0xAB2F, 29), (0xAB30, 1), (0xAB5B, 20), (0xAB5C, 3), (0xAB60, 1), (0xAB69, 3),
  (0xAB6A, 20), (0xAB6C, 29), (0xAB70, 1), (0xABC0, 4), (0xABE3, 6), (0xABE5, 5), (0xABE6, 6),
  (0xABE8, 5), (0xABE9, 6), (0xABEB, 17), (0xABEC, 6), (0xABED, 5), (0xABEE, 29), (0xABF0, 8),
  (0xABFA, 29), (0xAC00, 4), (0xD7A4, 29), (0xD7B0, 4), (0xD7C7, 29), (0xD7CB, 4), (0xD7FC, 29),
  (0xD800, 27), (0xE000, 28), (0xF900, 4), (0xFA6E, 29), (0xFA70, 4), (0xFADA, 29), (0xFB00, 1),
  (0xFB07, 29), (0xFB13, 1), (0xFB18, 29), (0xFB1D, 4), (0xFB1E, 5), (0xFB1F, 4), (0xFB29, 18),
  (0xFB2A, 4), (0xFB37, 29), (0xFB38, 4), (0xFB3D, 29), (0xFB3E, 4), (0xFB3F, 29), (0xFB40, 4),
  (0xFB42, 29), (0xFB43, 4), (0xFB45, 29), (0xFB46, 4), (0xFBB2, 20), (0xFBC3, 29), (0xFBD3, 4),
  (0xFD3E, 14), (0xFD3F, 13), (0xFD40, 21), (0xFD50, 4), (0xFD90, 29), (0xFD92, 4),
  (0xFDC8, 29), (0xFDCF, 21), (0xFDD0, 29), (0xFDF0, 4), (0xFDFC, 19), (0xFDFD, 21),
  (0xFE00, 5), (0xFE10, 17), (0xFE17, 13), (0xFE18, 14), (0xFE19, 17), (0xFE1A, 29),
  (0xFE20, 5), (0xFE30, 17), (0xFE31, 12), (0xFE33, 11), (0xFE35, 13), (0xFE36, 14),
  (0xFE37, 13), (0xFE38, 14), (0xFE39, 13), (0xFE3A, 14), (0xFE3B, 13), (0xFE3C, 14),
  (0xFE3D, 13), (0xFE3E, 14), (0xFE3F, 13), (0xFE40, 14), (0xFE41, 13), (0xFE42, 14),
  (0xFE43, 13), (0xFE44, 14), (0xFE45, 17), (0xFE47, 13), (0xFE48, 14), (0xFE49, 17),
  (0xFE4D, 11), (0xFE50, 17), (0xFE53, 29), (0xFE54, 17), (0xFE58, 12), (0xFE59, 13),
  (0xFE5A, 14), (0xFE5B, 13), (0xFE5C, 14), (0xFE5D, 13), (0xFE5E, 14), (0xFE5F, 17),
  (0xFE62, 18), (0xFE63, 12), (0xFE64, 18), (0xFE67, 29), (0xFE68, 17), (0xFE69, 19),
  (0xFE6A, 17), (0xFE6C, 29), (0xFE70, 4), (0xFE75, 29), (0xFE76, 4), (0xFEFD, 29),
  (0xFEFF, 26), (0xFF00, 29), (0xFF01, 17), (0xFF04, 19), (0xFF05, 17), (0xFF08, 13),
  (0xFF09, 14), (0xFF0A, 17), (0xFF0B, 18), (0xFF0C, 17), (0xFF0D, 12), (0xFF0E, 17),
  (0xFF10, 8), (0xFF1A, 17), (0xFF1C, 18), (0xFF1F, 17), (0xFF21, 0), (0xFF3B, 13),
  (0xFF3C, 17), (0xFF3D, 14), (0xFF3E, 20), (0xFF3F, 11), (0xFF40, 20), (0xFF41, 1),
  (0xFF5B, 13), (0xFF5C, 18), (0xFF5D, 14), (0xFF5E, 18), (0xFF5F, 13), (0xFF60, 14),
  (0xFF61, 17), (0xFF62, 13), (0xFF63, 14), (0xFF64, 17), (0xFF66, 4), (0xFF70, 3), (0xFF71, 4),
  (0xFF9E, 3), (0xFFA0, 4), (0xFFBF, 29), (0xFFC2, 4), (0xFFC8, 29), (0xFFCA, 4), (0xFFD0, 29),
  (0xFFD2, 4), (0xFFD8, 29), (0xFFDA, 4), (0xFFDD, 29), (0xFFE0, 19), (0xFFE2, 18),
  (0xFFE3, 20), (0xFFE4, 21), (0xFFE5, 19), (0xFFE7, 29), (0xFFE8, 21), (0xFFE9, 18),
  (0xFFED, 21), (0xFFEF, 29), (0xFFF9, 26), (0xFFFC, 21), (0xFFFE, 29), (0x10000, 4),
  (0x1000C, 29), (0x1000D, 4), (0x10027, 29), (0x10028, 4), (0x1003B, 29), (0x1003C, 4),
  (0x1003E, 29), (0x1003F, 4), (0x1004E, 29), (0x10050, 4), (0x1005E, 29), (0x10080, 4),
  (0x100FB, 29), (0x10100, 17), (0x10103, 29), (0x10107, 10), (0x10134, 29), (0x10137, 21),
  (0x10140, 9), (0x10175, 10), (0x10179, 21), (0x1018A, 10), (0x1018C, 21), (0x1018F, 29),
  (0x10190, 21), (0x1019D, 29), (0x101A0, 21), (0x101A1, 29), (0x101D0, 21), (0x101FD, 5),
  (0x101FE, 29), (0x10280, 4), (0x1029D, 29), (0x102A0, 4), (0x102D1, 29), (0x102E0, 5),
  (0x102E1, 10), (0x102FC, 29), (0x10300, 4), (0x10320, 10), (0x10324, 29), (0x1032D, 4),
  (0x10341, 9), (0x10342, 4), (0x1034A, 9), (0x1034B, 29), (0x10350, 4), (0x10376, 5),
  (0x1037B, 29), (0x10380, 4), (0x1039E, 29), (0x1039F, 17), (0x103A0, 4), (0x103C4, 29),
  (0x103C8, 4), (0x103D0, 17), (0x103D1, 9), (0x103D6, 29), (0x10400, 0), (0x10428, 1),
  (0x10450, 4), (0x1049E, 29), (0x104A0, 8), (0x104AA, 29), (0x104B0, 0), (0x104D4, 29),
  (0x104D8, 1), (0x104FC, 29), (0x10500, 4), (0x10528, 29), (0x10530, 4), (0x10564, 29),
  (0x1056F, 17), (0x10570, 0), (0x1057B, 29), (0x1057C, 0), (0x1058B, 29), (0x1058C, 0),
  (0x10593, 29), (0x10594, 0), (0x10596, 29), (0x10597, 1), (0x105A2, 29), (0x105A3, 1),
  (0x105B2, 29), (0x105B3, 1), (0x105BA, 29), (0x105BB, 1), (0x105BD, 29), (0x105C0, 4),
  (0x105F4, 29), (0x10600, 4), (0x10737, 29), (0x10740, 4), (0x10756, 29), (0x10760, 4),
  (0x10768, 29), (0x10780, 3), (0x10786, 29), (0x10787, 3), (0x107B1, 29), (0x107B2, 3),
  (0x107BB, 29), (0x10800, 4), (0x10806, 29), (0x10808, 4), (0x10809, 29), (0x1080A, 4),
  (0x10836, 29), (0x10837, 4), (0x10839, 29), (0x1083C, 4), (0x1083D, 29), (0x1083F, 4),
  (0x10856, 29), (0x10857, 17), (0x10858, 10), (0x10860, 4), (0x10877, 21), (0x10879, 10),
  (0x10880, 4), (0x1089F, 29), (0x108A7, 10), (0x108B0, 29), (0x108E0, 4), (0x108F3, 29),
  (0x108F4, 4), (0x108F6, 29), (0x108FB, 10), (0x10900, 4), (0x10916, 10), (0x1091C, 29),
  (0x1091F, 17), (0x10920, 4), (0x1093A, 29), (0x1093F, 17), (0x10940, 29), (0x10980, 4),
  (0x109B8, 29), (0x109BC, 10), (0x109BE, 4), (0x109C0, 10), (0x109D0, 29), (0x109D2, 10),
  (0x10A00, 4), (0x10A01, 5), (0x10A04, 29), (0x10A05, 5), (0x10A07, 29), (0x10A0C, 5),
  (0x10A10, 4), (0x10A14, 29), (0x10A15, 4), (0x10A18, 29), (0x10A19, 4), (0x10A36, 29),
  (0x10A38, 5), (0x10A3B, 29), (0x10A3F, 5), (0x10A40, 10), (0x10A49, 29), (0x10A50, 17),
  (0x10A59, 29), (0x10A60, 4), (0x10A7D, 10), (0x10A7F, 17), (0x10A80, 4), (0x10A9D, 10),
  (0x10AA0, 29), (0x10AC0, 4), (0x10AC8, 21), (0x10AC9, 4), (0x10AE5, 5), (0x10AE7, 29),
  (0x10AEB, 10), (0x10AF0, 17), (0x10AF7, 29), (0x10B00, 4), (0x10B36, 29), (0x10B39, 17),
  (0x10B40, 4), (0x10B56, 29), (0x10B58, 10), (0x10B60, 4), (0x10B73, 29), (0x10B78, 10),
  (0x10B80, 4), (0x10B92, 29), (0x10B99, 17), (0x10B9D, 29), (0x10BA9, 10), (0x10BB0, 29),
  (0x10C00, 4), (0x10C49, 29), (0x10C80, 0), (0x10CB3, 29), (0x10CC0, 1), (0x10CF3, 29),
  (0x10CFA, 10), (0x10D00, 4), (0x10D24, 5), (0x10D28, 29), (0x10D30, 8), (0x10D3A, 29),
  (0x10D40, 8), (0x10D4A, 4), (0x10D4E, 3), (0x10D4F, 4), (0x10D50, 0), (0x10D66, 29),
  (0x10D69, 5), (0x10D6E, 12), (0x10D6F, 3), (0x10D70, 1), (0x10D86, 29), (0x10D8E, 18),
  (0x10D90, 29), (0x10E60, 10), (0x10E7F, 29), (0x10E80, 4), (0x10EAA, 29), (0x10EAB, 5),
  (0x10EAD, 12), (0x10EAE, 29), (0x10EB0, 4), (0x10EB2, 29), (0x10EC2, 4), (0x10EC5, 29),
  (0x10EFC, 5), (0x10F00, 4), (0x10F1D, 10), (0x10F27, 4), (0x10F28, 29), (0x10F30, 4),
  (0x10F46, 5), (0x10F51, 10), (0x10F55, 17), (0x10F5A, 29), (0x10F70, 4), (0x10F82, 5),
  (0x10F86, 17), (0x10F8A, 29), (0x10FB0, 4), (0x10FC5, 10), (0x10FCC, 29), (0x10FE0, 4),
  (0x10FF7, 29), (0x11000, 6), (0x11001, 5), (0x11002, 6), (0x11003, 4), (0x11038, 5),
  (0x11047, 17), (0x1104E, 29), (0x11052, 10), (0x11066, 8), (0x11070, 5), (0x11071, 4),
  (0x11073, 5), (0x11075, 4), (0x11076, 29), (0x1107F, 5), (0x11082, 6), (0x11083, 4),
  (0x110B0, 6), (0x110B3, 5), (0x110B7, 6), (0x110B9, 5), (0x110BB, 17), (0x110BD, 26),
  (0x110BE, 17), (0x110C2, 5), (0x110C3, 29), (0x110CD, 26), (0x110CE, 29), (0x110D0, 4),
  (0x110E9, 29), (0x110F0, 8), (0x110FA, 29), (0x11100, 5), (0x11103, 4), (0x11127, 5),
  (0x1112C, 6), (0x1112D, 5), (0x11135, 29), (0x11136, 8), (0x11140, 17), (0x11144, 4),
  (0x11145, 6), (0x11147, 4), (0x11148, 29), (0x11150, 4), (0x11173, 5), (0x11174, 17),
  (0x11176, 4), (0x11177, 29), (0x11180, 5), (0x11182, 6), (0x11183, 4), (0x111B3, 6),
  (0x111B6, 5), (0x111BF, 6), (0x111C1, 4), (0x111C5, 17), (0x111C9, 5), (0x111CD, 17),
  (0x111CE, 6), (0x111CF, 5), (0x111D0, 8), (0x111DA, 4), (0x111DB, 17), (0x111DC, 4),
  (0x111DD, 17), (0x111E0, 29), (0x111E1, 10), (0x111F5, 29), (0x11200, 4), (0x11212, 29),
  (0x11213, 4), (0x1122C, 6), (0x1122F, 5), (0x11232, 6), (0x11234, 5), (0x11235, 6),
  (0x11236, 5), (0x11238, 17), (0x1123E, 5), (0x1123F, 4), (0x11241, 5), (0x11242, 29),
  (0x11280, 4), (0x11287, 29), (0x11288, 4), (0x11289, 29), (0x1128A, 4), (0x1128E, 29),
  (0x1128F, 4), (0x1129E, 29), (0x1129F, 4), (0x112A9, 17), (0x112AA, 29), (0x112B0, 4),
  (0x112DF, 5), (0x112E0, 6), (0x112E3, 5), (0x112EB, 29), (0x112F0, 8), (0x112FA, 29),
  (0x11300, 5), (0x11302, 6), (0x11304, 29), (0x11305, 4), (0x1130D, 29), (0x1130F, 4),
  (0x11311, 29), (0x11313, 4), (0x11329, 29), (0x1132A, 4), (0x11331, 29), (0x11332, 4),
  (0x11334, 29), (0x11335, 4), (0x1133A, 29), (0x1133B, 5), (0x1133D, 4), (0x1133E, 6),
  (0x11340, 5), (0x11341, 6), (0x11345, 29), (0x11347, 6), (0x11349, 29), (0x1134B, 6),
  (0x1134E, 29), (0x11350, 4), (0x11351, 29), (0x11357, 6), (0x11358, 29), (0x1135D, 4),
  (0x11362, 6), (0x11364, 29), (0x11366, 5), (0x1136D, 29), (0x11370, 5), (0x11375, 29),
  (0x11380, 4), (0x1138A, 29), (0x1138B, 4), (0x1138C, 29), (0x1138E, 4), (0x1138F, 29),
  (0x11390, 4), (0x113B6, 29), (0x113B7, 4), (0x113B8, 6), (0x113BB, 5), (0x113C1, 29),
  (0x113C2, 6), (0x113C3, 29), (0x113C5, 6), (0x113C6, 29), (0x113C7, 6), (0x113CB, 29),
  (0x113CC, 6), (0x113CE, 5), (0x113CF, 6), (0x113D0, 5), (0x113D1, 4), (0x113D2, 5),
  (0x113D3, 4), (0x113D4, 17), (0x113D6, 29), (0x113D7, 17), (0x113D9, 29), (0x113E1, 5),
  (0x113E3, 29), (0x11400, 4), (0x11435, 6), (0x11438, 5), (0x11440, 6), (0x11442, 5),
  (0x11445, 6), (0x11446, 5), (0x11447, 4), (0x1144B, 17), (0x11450, 8), (0x1145A, 17),
  (0x1145C, 29), (0x1145D, 17), (0x1145E, 5), (0x1145F, 4), (0x11462, 29), (0x11480, 4),
  (0x114B0, 6), (0x114B3, 5), (0x114B9, 6), (0x114BA, 5), (0x114BB, 6), (0x114BF, 5),
  (0x114C1, 6), (0x114C2, 5), (0x114C4, 4), (0x114C6, 17), (0x114C7, 4), (0x114C8, 29),
  (0x114D0, 8), (0x114DA, 29), (0x11580, 4), (0x115AF, 6), (0x115B2, 5), (0x115B6, 29),
  (0x115B8, 6), (0x115BC, 5), (0x115BE, 6), (0x115BF, 5), (0x115C1, 17), (0x115D8, 4),
  (0x115DC, 5), (0x115DE, 29), (0x11600, 4), (0x11630, 6), (0x11633, 5), (0x1163B, 6),
  (0x1163D, 5), (0x1163E, 6), (0x1163F, 5), (0x11641, 17), (0x11644, 4), (0x11645, 29),
  (0x11650, 8), (0x1165A, 29), (0x11660, 17), (0x1166D, 29), (0x11680, 4), (0x116AB, 5),
  (0x116AC, 6), (0x116AD, 5), (0x116AE, 6), (0x116B0, 5), (0x116B6, 6), (0x116B7, 5),
  (0x116B8, 4), (0x116B9, 17), (0x116BA, 29), (0x116C0, 8), (0x116CA, 29), (0x116D0, 8),
  (0x116E4, 29), (0x11700, 4), (0x1171B, 29), (0x1171D, 5), (0x1171E, 6), (0x1171F, 5),
  (0x11720, 6), (0x11722, 5), (0x11726, 6), (0x11727, 5), (0x1172C, 29), (0x11730, 8),
  (0x1173A, 10), (0x1173C, 17), (0x1173F, 21), (0x11740, 4), (0x11747, 29), (0x11800, 4),
  (0x1182C, 6), (0x1182F, 5), (0x11838, 6), (0x11839, 5), (0x1183B, 17), (0x1183C, 29),
  (0x118A0, 0), (0x118C0, 1), (0x118E0, 8), (0x118EA, 10), (0x118F3, 29), (0x118FF, 4),
  (0x11907, 29), (0x11909, 4), (0x1190A, 29), (0x1190C, 4), (0x11914, 29), (0x11915, 4),
  (0x11917, 29), (0x11918, 4), (0x11930, 6), (0x11936, 29), (0x11937, 6), (0x11939, 29),
  (0x1193B, 5), (0x1193D, 6), (0x1193E, 5), (0x1193F, 4), (0x11940, 6), (0x11941, 4),
  (0x11942, 6), (0x11943, 5), (0x11944, 17), (0x11947, 29), (0x11950, 8), (0x1195A, 29),
  (0x119A0, 4), (0x119A8, 29), (0x119AA, 4), (0x119D1, 6), (0x119D4, 5), (0x119D8, 29),
  (0x119DA, 5), (0x119DC, 6), (0x119E0, 5), (0x119E1, 4), (0x119E2, 17), (0x119E3, 4),
  (0x119E4, 6), (0x119E5, 29), (0x11A00, 4), (0x11A01, 5), (0x11A0B, 4), (0x11A33, 5),
  (0x11A39, 6), (0x11A3A, 4), (0x11A3B, 5), (0x11A3F, 17), (0x11A47, 5), (0x11A48, 29),
  (0x11A50, 4), (0x11A51, 5), (0x11A57, 6), (0x11A59, 5), (0x11A5C, 4), (0x11A8A, 5),
  (0x11A97, 6), (0x11A98, 5), (0x11A9A, 17), (0x11A9D, 4), (0x11A9E, 17), (0x11AA3, 29),
  (0x11AB0, 4), (0x11AF9, 29), (0x11B00, 17), (0x11B0A, 29), (0x11BC0, 4), (0x11BE1, 17),
  (0x11BE2, 29), (0x11BF0, 8), (0x11BFA, 29), (0x11C00, 4), (0x11C09, 29), (0x11C0A, 4),
  (0x11C2F, 6), (0x11C30, 5), (0x11C37, 29), (0x11C38, 5), (0x11C3E, 6), (0x11C3F, 5),
  (0x11C40, 4), (0x11C41, 17), (0x11C46, 29), (0x11C50, 8), (0x11C5A, 10), (0x11C6D, 29),
  (0x11C70, 17), (0x11C72, 4), (0x11C90, 29), (0x11C92, 5), (0x11CA8, 29), (0x11CA9, 6),
  (0x11CAA, 5), (0x11CB1, 6), (0x11CB2, 5), (0x11CB4, 6), (0x11CB5, 5), (0x11CB7, 29),
  (0x11D00, 4), (0x11D07, 29), (0x11D08, 4), (0x11D0A, 29), (0x11D0B, 4), (0x11D31, 5),
  (0x11D37, 29), (0x11D3A, 5), (0x11D3B, 29), (0x11D3C, 5), (0x11D3E, 29), (0x11D3F, 5),
  (0x11D46, 4), (0x11D47, 5), (0x11D48, 29), (0x11D50, 8), (0x11D5A, 29), (0x11D60, 4),
  (0x11D66, 29), (0x11D67, 4), (0x11D69, 29), (0x11D6A, 4), (0x11D8A, 6), (0x11D8F, 29),
  (0x11D90, 5), (0x11D92, 29), (0x11D93, 6), (0x11D95, 5), (0x11D96, 6), (0x11D97, 5),
  (0x11D98, 4), (0x11D99, 29), (0x11DA0, 8), (0x11DAA, 29), (0x11EE0, 4), (0x11EF3, 5),
  (0x11EF5, 6), (0x11EF7, 17), (0x11EF9, 29), (0x11F00, 5), (0x11F02, 4), (0x11F03, 6),
  (0x11F04, 4), (0x11F11, 29), (0x11F12, 4), (0x11F34, 6), (0x11F36, 5), (0x11F3B, 29),
  (0x11F3E, 6), (0x11F40, 5), (0x11F41, 6), (0x11F42, 5), (0x11F43, 17), (0x11F50, 8),
  (0x11F5A, 5), (0x11F5B, 29), (0x11FB0, 4), (0x11FB1, 29), (0x11FC0, 10), (0x11FD5, 21),
  (0x11FDD, 19), (0x11FE1, 21), (0x11FF2, 29), (0x11FFF, 17), (0x12000, 4), (0x1239A, 29),
  (0x12400, 9), (0x1246F, 29), (0x12470, 17), (0x12475, 29), (0x12480, 4), (0x12544, 29),
  (0x12F90, 4), (0x12FF1, 17), (0x12FF3, 29), (0x13000, 4), (0x13430, 26), (0x13440, 5),
  (0x13441, 4), (0x13447, 5), (0x13456, 29), (0x13460, 4), (0x143FB, 29), (0x14400, 4),
  (0x14647, 29), (0x16100, 4), (0x1611E, 5), (0x1612A, 6), (0x1612D, 5), (0x16130, 8),
  (0x1613A, 29), (0x16800, 4), (0x16A39, 29), (0x16A40, 4), (0x16A5F, 29), (0x16A60, 8),
  (0x16A6A, 29), (0x16A6E, 17), (0x16A70, 4), (0x16ABF, 29), (0x16AC0, 8), (0x16ACA, 29),
  (0x16AD0, 4), (0x16AEE, 29), (0x16AF0, 5), (0x16AF5, 17), (0x16AF6, 29), (0x16B00, 4),
  (0x16B30, 5), (0x16B37, 17), (0x16B3C, 21), (0x16B40, 3), (0x16B44, 17), (0x16B45, 21),
  (0x16B46, 29), (0x16B50, 8), (0x16B5A, 29), (0x16B5B, 10), (0x16B62, 29), (0x16B63, 4),
  (0x16B78, 29), (0x16B7D, 4), (0x16B90, 29), (0x16D40, 3), (0x16D43, 4), (0x16D6B, 3),
  (0x16D6D, 17), (0x16D70, 8), (0x16D7A, 29), (0x16E40, 0), (0x16E60, 1), (0x16E80, 10),
  (0x16E97, 17), (0x16E9B, 29), (0x16F00, 4), (0x16F4B, 29), (0x16F4F, 5), (0x16F50, 4),
  (0x16F51, 6), (0x16F88, 29), (0x16F8F, 5), (0x16F93, 3), (0x16FA0, 29), (0x16FE0, 3),
  (0x16FE2, 17), (0x16FE3, 3), (0x16FE4, 5), (0x16FE5, 29), (0x16FF0, 6), (0x16FF2, 29),
  (0x17000, 4), (0x187F8, 29), (0x18800, 4), (0x18CD6, 29), (0x18CFF, 4), (0x18D09, 29),
  (0x1AFF0, 3), (0x1AFF4, 29), (0x1AFF5, 3), (0x1AFFC, 29), (0x1AFFD, 3), (0x1AFFF, 29),
  (0x1B000, 4), (0x1B123, 29), (0x1B132, 4), (0x1B133, 29), (0x1B150, 4), (0x1B153, 29),
  (0x1B155, 4), (0x1B156, 29), (0x1B164, 4), (0x1B168, 29), (0x1B170, 4), (0x1B2FC, 29),
  (0x1BC00, 4), (0x1BC6B, 29), (0x1BC70, 4), (0x1BC7D, 29), (0x1BC80, 4), (0x1BC89, 29),
  (0x1BC90, 4), (0x1BC9A, 29), (0x1BC9C, 21), (0x1BC9D, 5), (0x1BC9F, 17), (0x1BCA0, 26),
  (0x1BCA4, 29), (0x1CC00, 21), (0x1CCF0, 8), (0x1CCFA, 29), (0x1CD00, 21), (0x1CEB4, 29),
  (0x1CF00, 5), (0x1CF2E, 29), (0x1CF30, 5), (0x1CF47, 29), (0x1CF50, 21), (0x1CFC4, 29),
  (0x1D000, 21), (0x1D0F6, 29), (0x1D100, 21), (0x1D127, 29), (0x1D129, 21), (0x1D165, 6),
  (0x1D167, 5), (0x1D16A, 21), (0x1D16D, 6), (0x1D173, 26), (0x1D17B, 5), (0x1D183, 21),
  (0x1D185, 5), (0x1D18C, 21), (0x1D1AA, 5), (0x1D1AE, 21), (0x1D1EB, 29), (0x1D200, 21),
  (0x1D242, 5), (0x1D245, 21), (0x1D246, 29), (0x1D2C0, 10), (0x1D2D4, 29), (0x1D2E0, 10),
  (0x1D2F4, 29), (0x1D300, 21), (0x1D357, 29), (0x1D360, 10), (0x1D379, 29), (0x1D400, 0),
  (0x1D41A, 1), (0x1D434, 0), (0x1D44E, 1), (0x1D455, 29), (0x1D456, 1), (0x1D468, 0),
  (0x1D482, 1), (0x1D49C, 0), (0x1D49D, 29), (0x1D49E, 0), (0x1D4A0, 29), (0x1D4A2, 0),
  (0x1D4A3, 29), (0x1D4A5, 0), (0x1D4A7, 29), (0x1D4A9, 0), (0x1D4AD, 29), (0x1D4AE, 0),
  (0x1D4B6, 1), (0x1D4BA, 29), (0x1D4BB, 1), (0x1D4BC, 29), (0x1D4BD, 1), (0x1D4C4, 29),
  (0x1D4C5, 1), (0x1D4D0, 0), (0x1D4EA, 1), (0x1D504, 0), (0x1D506, 29), (0x1D507, 0),
  (0x1D50B, 29), (0x1D50D, 0), (0x1D515, 29), (0x1D516, 0), (0x1D51D, 29), (0x1D51E, 1),
  (0x1D538, 0), (0x1D53A, 29), (0x1D53B, 0), (0x1D53F, 29), (0x1D540, 0), (0x1D545, 29),
  (0x1D546, 0), (0x1D547, 29), (0x1D54A, 0), (0x1D551, 29), (0x1D552, 1), (0x1D56C, 0),
  (0x1D586, 1), (0x1D5A0, 0), (0x1D5BA, 1), (0x1D5D4, 0), (0x1D5EE, 1), (0x1D608, 0),
  (0x1D622, 1), (0x1D63C, 0), (0x1D656, 1), (0x1D670, 0), (0x1D68A, 1), (0x1D6A6, 29),
  (0x1D6A8, 0), (0x1D6C1, 18), (0x1D6C2, 1), (0x1D6DB, 18), (0x1D6DC, 1), (0x1D6E2, 0),
  (0x1D6FB, 18), (0x1D6FC, 1), (0x1D715, 18), (0x1D716, 1), (0x1D71C, 0), (0x1D735, 18),
  (0x1D736, 1), (0x1D74F, 18), (0x1D750, 1), (0x1D756, 0), (0x1D76F, 18), (0x1D770, 1),
  (0x1D789, 18), (0x1D78A, 1), (0x1D790, 0), (0x1D7A9, 18), (0x1D7AA, 1), (0x1D7C3, 18),
  (0x1D7C4, 1), (0x1D7CA, 0), (0x1D7CB, 1), (0x1D7CC, 29), (0x1D7CE, 8), (0x1D800, 21),
  (0x1DA00, 5), (0x1DA37, 21), (0x1DA3B, 5), (0x1DA6D, 21), (0x1DA75, 5), (0x1DA76, 21),
  (0x1DA84, 5), (0x1DA85, 21), (0x1DA87, 17), (0x1DA8C, 29), (0x1DA9B, 5), (0x1DAA0, 29),
  (0x1DAA1, 5), (0x1DAB0, 29), (0x1DF00, 1), (0x1DF0A, 4), (0x1DF0B, 1), (0x1DF1F, 29),
  (0x1DF25, 1), (0x1DF2B, 29), (0x1E000, 5), (0x1E007, 29), (0x1E008, 5), (0x1E019, 29),
  (0x1E01B, 5), (0x1E022, 29), (0x1E023, 5), (0x1E025, 29), (0x1E026, 5), (0x1E02B, 29),
  (0x1E030, 3), (0x1E06E, 29), (0x1E08F, 5), (0x1E090, 29), (0x1E100, 4), (0x1E12D, 29),
  (0x1E130, 5), (0x1E137, 3), (0x1E13E, 29), (0x1E140, 8), (0x1E14A, 29), (0x1E14E, 4),
  (0x1E14F, 21), (0x1E150, 29), (0x1E290, 4), (0x1E2AE, 5), (0x1E2AF, 29), (0x1E2C0, 4),
  (0x1E2EC, 5), (0x1E2F0, 8), (0x1E2FA, 29), (0x1E2FF, 19), (0x1E300, 29), (0x1E4D0, 4),
  (0x1E4EB, 3), (0x1E4EC, 5), (0x1E4F0, 8), (0x1E4FA, 29), (0x1E5D0, 4), (0x1E5EE, 5),
  (0x1E5F0, 4), (0x1E5F1, 8), (0x1E5FB, 29), (0x1E5FF, 17), (0x1E600, 29), (0x1E7E0, 4),
  (0x1E7E7, 29), (0x1E7E8, 4), (0x1E7EC, 29), (0x1E7ED, 4), (0x1E7EF, 29), (0x1E7F0, 4),
  (0x1E7FF, 29), (0x1E800, 4), (0x1E8C5, 29), (0x1E8C7, 10), (0x1E8D0, 5), (0x1E8D7, 29),
  (0x1E900, 0), (0x1E922, 1), (0x1E944, 5), (0x1E94B, 3), (0x1E94C, 29), (0x1E950, 8),
  (0x1E95A, 29), (0x1E95E, 17), (0x1E960, 29), (0x1EC71, 10), (0x1ECAC, 21), (0x1ECAD, 10),
  (0x1ECB0, 19), (0x1ECB1, 10), (0x1ECB5, 29), (0x1ED01, 10), (0x1ED2E, 21), (0x1ED2F, 10),
  (0x1ED3E, 29), (0x1EE00, 4), (0x1EE04, 29), (0x1EE05, 4), (0x1EE20, 29), (0x1EE21, 4),
  (0x1EE23, 29), (0x1EE24, 4), (0x1EE25, 29), (0x1EE27, 4), (0x1EE28, 29), (0x1EE29, 4),
  (0x1EE33, 29), (0x1EE34, 4), (0x1EE38, 29), (0x1EE39, 4), (0x1EE3A, 29), (0x1EE3B, 4),
  (0x1EE3C, 29), (0x1EE42, 4), (0x1EE43, 29), (0x1EE47, 4), (0x1EE48, 29), (0x1EE49, 4),
  (0x1EE4A, 29), (0x1EE4B, 4), (0x1EE4C, 29), (0x1EE4D, 4), (0x1EE50, 29), (0x1EE51, 4),
  (0x1EE53, 29), (0x1EE54, 4), (0x1EE55, 29), (0x1EE57, 4), (0x1EE58, 29), (0x1EE59, 4),
  (0x1EE5A, 29), (0x1EE5B, 4), (0x1EE5C, 29), (0x1EE5D, 4), (0x1EE5E, 29), (0x1EE5F, 4),
  (0x1EE60, 29), (0x1EE61, 4), (0x1EE63, 29), (0x1EE64, 4), (0x1EE65, 29), (0x1EE67, 4),
  (0x1EE6B, 29), (0x1EE6C, 4), (0x1EE73, 29), (0x1EE74, 4), (0x1EE78, 29), (0x1EE79, 4),
  (0x1EE7D, 29), (0x1EE7E, 4), (0x1EE7F, 29), (0x1EE80, 4), (0x1EE8A, 29), (0x1EE8B, 4),
  (0x1EE9C, 29), (0x1EEA1, 4), (0x1EEA4, 29), (0x1EEA5, 4), (0x1EEAA, 29), (0x1EEAB, 4),
  (0x1EEBC, 29), (0x1EEF0, 18), (0x1EEF2, 29), (0x1F000, 21), (0x1F02C, 29), (0x1F030, 21),
  (0x1F094, 29), (0x1F0A0, 21), (0x1F0AF, 29), (0x1F0B1, 21), (0x1F0C0, 29), (0x1F0C1, 21),
  (0x1F0D0, 29), (0x1F0D1, 21), (0x1F0F6, 29), (0x1F100, 10), (0x1F10D, 21), (0x1F1AE, 29),
  (0x1F1E6, 21), (0x1F203, 29), (0x1F210, 21), (0x1F23C, 29), (0x1F240, 21), (0x1F249, 29),
  (0x1F250, 21), (0x1F252, 29), (0x1F260, 21), (0x1F266, 29), (0x1F300, 21), (0x1F3FB, 20),
  (0x1F400, 21), (0x1F6D8, 29), (0x1F6DC, 21), (0x1F6ED, 29), (0x1F6F0, 21), (0x1F6FD, 29),
  (0x1F700, 21), (0x1F777, 29), (0x1F77B, 21), (0x1F7DA, 29), (0x1F7E0, 21), (0x1F7EC, 29),
  (0x1F7F0, 21), (0x1F7F1, 29), (0x1F800, 21), (0x1F80C, 29), (0x1F810, 21), (0x1F848, 29),
  (0x1F850, 21), (0x1F85A, 29), (0x1F860, 21), (0x1F888, 29), (0x1F890, 21), (0x1F8AE, 29),
  (0x1F8B0, 21), (0x1F8BC, 29), (0x1F8C0, 21), (0x1F8C2, 29), (0x1F900, 21), (0x1FA54, 29),
  (0x1FA60, 21), (0x1FA6E, 29), (0x1FA70, 21), (0x1FA7D, 29), (0x1FA80, 21), (0x1FA8A, 29),
  (0x1FA8F, 21), (0x1FAC7, 29), (0x1FACE, 21), (0x1FADD, 29), (0x1FADF, 21), (0x1FAEA, 29),
  (0x1FAF0, 21), (0x1FAF9, 29), (0x1FB00, 21), (0x1FB93, 29), (0x1FB94, 21), (0x1FBF0, 8),
  (0x1FBFA, 29), (0x20000, 4), (0x2A6E0, 29), (0x2A700, 4), (0x2B73A, 29), (0x2B740, 4),
  (0x2B81E, 29), (0x2B820, 4), (0x2CEA2, 29), (0x2CEB0, 4), (0x2EBE1, 29), (0x2EBF0, 4),
  (0x2EE5E, 29), (0x2F800, 4), (0x2FA1E, 29), (0x30000, 4), (0x3134B, 29), (0x31350, 4),
  (0x323B0, 29), (0xE0001, 26), (0xE0002, 29), (0xE0020, 26), (0xE0080, 29), (0xE0100, 5),
  (0xE01F0, 29), (0xF0000, 28), (0xFFFFE, 29), (0x100000, 28), (0x10FFFE, 29)]

/-- The last run that starts at or before a code point. -/
def runOf (code : Nat) : Nat × Nat :=
  categoryRuns.foldl (fun found run => if run.1 ≤ code then run else found) (0, 0)

/-- The category of a character. -/
def generalCategory (c : Char) : GeneralCategory :=
  let (start, number) := runOf c.toNat
  match GeneralCategory.all[number]? with
  | some category => category
  -- a run of pairs, which starts with a capital letter
  | none => if (c.toNat - start) % 2 = 0 then .uppercaseLetter else .lowercaseLetter

end RowSignals.Text
