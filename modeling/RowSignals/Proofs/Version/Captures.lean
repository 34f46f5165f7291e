import RowSignals.Proofs.Pattern.Matching
import RowSignals.Proofs.Version.Grammar
import RowSignals.Version.Scheme

/-!
# The pattern of semantic versions

Semantic versions are written down as a pattern, too, whose captures are the parts. The reader finds
what the pattern takes, and there is no choice in what its captures keep.

* `SemanticVersion.patternSource`: the pattern as a text; `SemanticVersion.pattern`: what it says.
* `SemanticVersion.found_pattern_iff`: what the pattern takes, and what its captures keep.
-/

namespace RowSignals

deriving instance DecidableEq for CharSet, Anchor, Pattern, ReadPattern

namespace SemanticVersion

open Pattern

/-! ## The pattern -/

/-- The pattern of a semantic version as it is written. -/
def patternSource : String :=
  "^v?(?P<major>0|[1-9]\\d*)\\.(?P<minor>0|[1-9]\\d*)\\.(?P<patch>0|[1-9]\\d*)" ++
  "(?:-(?P<release>(?:0|[1-9]\\d*|\\d*[a-zA-Z-][0-9a-zA-Z-]*)" ++
  "(?:\\.(?:0|[1-9]\\d*|\\d*[a-zA-Z-][0-9a-zA-Z-]*))*))?" ++
  "(?:\\+(?P<build>[0-9a-zA-Z-]+(?:\\.[0-9a-zA-Z-]+)*))?$"

/-- The characters of some ranges. -/
def oneOf (ranges : List (Nat × Nat)) : CharSet :=
  ranges.foldl (fun set range => .union set (.ranges [range])) .none

/-- One character. -/
def character (c : Char) : Pattern :=
  .one (.single c)

/-- A part or nothing. -/
def optional (body : Pattern) : Pattern :=
  .repeated ⟨0, some 1, true⟩ body

/-- A part any number of times. -/
def anyNumber (body : Pattern) : Pattern :=
  .repeated ⟨0, none, true⟩ body

/-- A digit from 1 to 9 and further digits. -/
def positivePattern : Pattern :=
  .followedBy (.one (oneOf [(49, 57)])) (anyNumber (.one .digits))

/-- A number without leading zeros. -/
def numberPattern : Pattern :=
  .either (character '0') positivePattern

/-- Letters and the hyphen. -/
def letterSet : CharSet :=
  oneOf [(97, 122), (65, 90), (45, 45)]

/-- The characters of identifiers. -/
def identifierSet : CharSet :=
  oneOf [(48, 57), (97, 122), (65, 90), (45, 45)]

/-- Digits, a letter, and further characters. -/
def wordPattern : Pattern :=
  .followedBy (anyNumber (.one .digits))
    (.followedBy (.one letterSet) (anyNumber (.one identifierSet)))

/-- A part of a release. -/
def releasePattern : Pattern :=
  .either (character '0') (.either positivePattern wordPattern)

/-- A part of a build. -/
def buildPattern : Pattern :=
  .repeated ⟨1, none, true⟩ (.one identifierSet)

/-- A part, and further ones after points. -/
def dottedPattern (part : Pattern) : Pattern :=
  .followedBy part (anyNumber (.followedBy (character '.') part))

/-- A release and a build, which may be missing, and nothing after them. -/
def endPattern : Pattern :=
  Pattern.sequence [
    optional (.followedBy (character '-') (.capture 4 (dottedPattern releasePattern))),
    optional (.followedBy (character '+') (.capture 5 (dottedPattern buildPattern))),
    .anchored .textEnd]

/-- A version without the letter in front. -/
def barePattern : Pattern :=
  Pattern.sequence [.capture 1 numberPattern, character '.', .capture 2 numberPattern,
    character '.', .capture 3 numberPattern, endPattern]

/-- The pattern of a semantic version. -/
def pattern : Pattern :=
  Pattern.sequence [.anchored .textStart, optional (character 'v'), barePattern]

/-- The numbers of the captures of the pattern. -/
def captureNames : List (String × Nat) :=
  [("major", 1), ("minor", 2), ("patch", 3), ("release", 4), ("build", 5)]

/-- The reader of patterns takes the written pattern for `pattern`, with the captures numbered
as here. It is by this fact that the lemmas below are about the pattern as it is written. -/
theorem read?_patternSource : Pattern.read? patternSource = some ⟨pattern, captureNames⟩ := by
  decide +kernel

/-! ## Sets of characters -/

/-- A character belongs to some ranges if it lies in one of them. -/
theorem contains_oneOf {ranges : List (Nat × Nat)} {c : Char} :
    (oneOf ranges).contains c = true ↔ ∃ range ∈ ranges, range.1 ≤ c.toNat ∧ c.toNat ≤ range.2 := by
  have hfold (set : CharSet) :
      (ranges.foldl (fun set range => .union set (.ranges [range])) set).contains c = true
        ↔ set.contains c = true ∨ ∃ range ∈ ranges, range.1 ≤ c.toNat ∧ c.toNat ≤ range.2 := by
    induction ranges generalizing set with
    | nil => simp
    | cons range ranges ih => simp [ih, CharSet.contains, or_assoc]
  rw [oneOf, hfold]
  simp [CharSet.none, CharSet.contains]

/-- The range from 1 to 9 has the ASCII digits without zero. -/
theorem contains_positive_iff {c : Char} :
    (oneOf [(49, 57)]).contains c = true ↔ c.isDigit = true ∧ c ≠ '0' := by
  have hzero : c ≠ '0' ↔ c.toNat ≠ 48 := not_congr Char.toNat_inj.symm
  rw [contains_oneOf, isDigit_iff, hzero]
  simp only [List.mem_singleton, exists_eq_left]
  omega

/-- The set of letters has the letters and the hyphen. -/
theorem contains_letterSet_iff {c : Char} :
    letterSet.contains c = true ↔ (c.isAlpha || c == '-') = true := by
  rw [letterSet, contains_oneOf, wordStart_iff]
  simp only [List.mem_cons, List.not_mem_nil, or_false, exists_eq_or_imp, exists_eq_left]
  omega

/-- The set of identifiers has the characters that the reader admits in one. -/
theorem contains_identifierSet_iff {c : Char} :
    identifierSet.contains c = true ↔ isIdentifierChar c = true := by
  rw [identifierSet, contains_oneOf, isIdentifierChar_iff, isDigit_iff, wordStart_iff]
  simp only [List.mem_cons, List.not_mem_nil, or_false, exists_eq_or_imp, exists_eq_left]
  omega

/-! ## What the parts take -/

/-- The pattern of one character takes that character alone. -/
theorem takesAnywhere_character (c : Char) :
    TakesAnywhere (character c) (Plain fun cs => cs = [c]) := by
  refine (takesAnywhere_one (.single c)).congr fun cs kept => and_congr_left' ?_
  have hsingle (d : Char) : (CharSet.single c).contains d = true ↔ d = c := by
    simp only [CharSet.single, CharSet.contains, List.any_cons, List.any_nil, Bool.or_false,
      Bool.and_eq_true, decide_eq_true_eq, ← Char.toNat_inj]
    omega
  simp [hsingle]

/-- Digits of the pattern are those of any script. -/
theorem takesAnywhere_digits :
    TakesAnywhere (anyNumber (.one .digits))
      (Plain fun cs => ∀ c ∈ cs, Text.isDecimalDigit c = true) := by
  refine (takesAnywhere_repeated_one .digits 0 true).congr fun cs kept => and_congr_left' ?_
  simp [CharSet.contains]

/-- A number without zero in front starts with an ASCII digit, and goes on in digits of any
script. -/
theorem takesAnywhere_positive :
    TakesAnywhere positivePattern (Plain fun cs => ∃ c rest, cs = c :: rest ∧ c.isDigit = true
      ∧ c ≠ '0' ∧ ∀ d ∈ rest, Text.isDecimalDigit d = true) := by
  refine ((takesAnywhere_one _).followedBy_plain takesAnywhere_digits).congr
    fun cs kept => and_congr_left' ?_
  constructor
  · rintro ⟨_, rest, ⟨c, hc, rfl⟩, hrest, rfl⟩
    obtain ⟨hdigit, hzero⟩ := contains_positive_iff.mp hc
    exact ⟨c, rest, rfl, hdigit, hzero, hrest⟩
  · rintro ⟨c, rest, rfl, hdigit, hzero, hrest⟩
    exact ⟨[c], rest, ⟨c, contains_positive_iff.mpr ⟨hdigit, hzero⟩, rfl⟩, hrest, rfl⟩

/-- The pattern of numbers takes the numbers in digits of any script. -/
theorem takesAnywhere_number :
    TakesAnywhere numberPattern (Plain (IsNumberWith Text.isDecimalDigit)) :=
  (takesAnywhere_character '0').either takesAnywhere_positive

/-- The pattern of words takes the words whose leading digits are of any script. -/
theorem takesAnywhere_word :
    TakesAnywhere wordPattern (Plain (IsWordWith Text.isDecimalDigit)) := by
  have hrest := (takesAnywhere_one letterSet).followedBy_plain
    (takesAnywhere_repeated_one identifierSet 0 true)
  refine (takesAnywhere_digits.followedBy_plain hrest).congr fun cs kept => and_congr_left' ?_
  constructor
  · rintro ⟨ds, _, hds, ⟨_, rest, ⟨c, hc, rfl⟩, ⟨-, hrest⟩, rfl⟩, rfl⟩
    exact ⟨ds, c, rest, rfl, hds, contains_letterSet_iff.mp hc,
      fun d hd => contains_identifierSet_iff.mp (hrest d hd)⟩
  · rintro ⟨ds, c, rest, rfl, hds, hc, hrest⟩
    exact ⟨ds, c :: rest, hds, ⟨[c], rest, ⟨c, contains_letterSet_iff.mpr hc, rfl⟩,
      ⟨Nat.zero_le _, fun d hd => contains_identifierSet_iff.mpr (hrest d hd)⟩, rfl⟩, rfl⟩

/-- The pattern of a release part takes numbers and words. -/
theorem takesAnywhere_release :
    TakesAnywhere releasePattern
      (Plain fun cs => IsNumberWith Text.isDecimalDigit cs ∨ IsWordWith Text.isDecimalDigit cs) :=
  ((takesAnywhere_character '0').either (takesAnywhere_positive.either takesAnywhere_word)).congr
    fun _ _ => and_congr_left' or_assoc.symm

/-- The pattern of a build part takes identifiers. -/
theorem takesAnywhere_build : TakesAnywhere buildPattern (Plain IsIdentifier) := by
  refine (takesAnywhere_repeated_one identifierSet 1 true).congr fun cs kept => and_congr_left' ?_
  simp only [IsIdentifier, contains_identifierSet_iff, Nat.one_le_iff_ne_zero,
    List.length_eq_zero_iff, ne_eq]

/-- Texts joined by points are the first one and the others with a point in front of each. -/
theorem intercalate_eq_append (first : List Char) (more : List (List Char)) :
    ['.'].intercalate (first :: more) = first ++ (more.map ('.' :: ·)).flatten := by
  induction more generalizing first with
  | nil => simp [List.intercalate_singleton]
  | cons second more ih =>
    rw [List.intercalate_cons_cons, ih, List.map_cons, List.flatten_cons]
    simp

/-- A part and further ones after points take the texts of the part joined by points. -/
theorem takesAnywhere_dotted {part : Pattern} {P : List Char → Prop}
    (h : part.TakesAnywhere (Plain P)) :
    TakesAnywhere (dottedPattern part) (Plain (Dotted P)) := by
  have hmore := ((takesAnywhere_character '.').followedBy_plain h).repeated 0 true
  refine (h.followedBy_plain hmore).congr fun cs kept => and_congr_left' ?_
  constructor
  · -- the repetition takes the further parts with the points in front of them
    rintro ⟨first, _, hfirst, ⟨marked, -, hmarked, rfl⟩, rfl⟩
    have htail : ∀ text ∈ marked, text = '.' :: text.tail ∧ P text.tail := by
      intro text htext
      obtain ⟨_, more, rfl, hmore, rfl⟩ := hmarked text htext
      exact ⟨rfl, hmore⟩
    have hmap : (marked.map List.tail).map ('.' :: ·) = marked := by
      rw [List.map_map]
      refine (List.map_congr_left fun text htext => ?_).trans (List.map_id marked)
      exact (htail text htext).1.symm
    refine ⟨first :: marked.map List.tail, List.cons_ne_nil _ _, ?_, ?_⟩
    · rw [List.forall_mem_cons]
      refine ⟨hfirst, fun part hpart => ?_⟩
      obtain ⟨text, htext, rfl⟩ := List.mem_map.mp hpart
      exact (htail text htext).2
    · rw [intercalate_eq_append, hmap]
  · rintro ⟨parts, hne, hparts, rfl⟩
    obtain ⟨first, more, rfl⟩ := List.exists_cons_of_ne_nil hne
    obtain ⟨hfirst, hmore⟩ := List.forall_mem_cons.mp hparts
    refine ⟨first, _, hfirst, ⟨more.map ('.' :: ·), Nat.zero_le _, ?_, rfl⟩,
      intercalate_eq_append first more⟩
    intro marked hmarked
    obtain ⟨part, hpart, rfl⟩ := List.mem_map.mp hmarked
    exact ⟨['.'], part, rfl, hmore part hpart, rfl⟩

/-- A marked part that may be missing is kept if it is there. -/
theorem takesAnywhere_marked {part : Pattern} {P : List Char → Prop}
    (h : part.TakesAnywhere (Plain P)) (mark : Char) (index : Nat) :
    TakesAnywhere (optional (.followedBy (character mark) (.capture index part))) fun cs kept =>
      ∃ found : Option (List Char), (∀ text ∈ found, P text)
        ∧ cs = (found.elim [] fun text => mark :: text)
        ∧ kept = (found.map fun text => (index, text)).toList := by
  refine (((takesAnywhere_character mark).followedBy (h.capture index)).optional true).congr
    fun cs kept => ?_
  constructor
  · rintro (⟨rfl, rfl⟩ | ⟨_, text, _, _, ⟨rfl, rfl⟩, ⟨htext, rfl⟩, rfl, rfl⟩)
    · exact ⟨none, by simp, rfl, rfl⟩
    · exact ⟨some text, by simpa using htext, rfl, rfl⟩
  · rintro ⟨found, hfound, rfl, rfl⟩
    cases found with
    | none => exact .inl ⟨rfl, rfl⟩
    | some text =>
      exact .inr ⟨[mark], text, [], [(index, text)], ⟨rfl, rfl⟩, ⟨hfound text rfl, rfl⟩, rfl, rfl⟩

/-! ## What the pattern takes -/

/-- What the captures of the pattern keep of a version. -/
def kept (v : SemanticVersion) : Kept :=
  [(1, v.major), (2, v.minor), (3, v.patch)] ++ (v.release.map fun text => (4, text)).toList ++
    (v.build.map fun text => (5, text)).toList

section
variable {before : Option Char} {cs rest : List Char} {found : Kept}

/-- The end of the pattern takes a release after a hyphen and a build after a plus sign, of
which either may be missing, and only where the text ends. -/
theorem takes_endPattern_iff :
    endPattern.Takes before cs rest found
      ↔ rest = [] ∧ ∃ release build : Option (List Char),
        (∀ r ∈ release, Dotted
          (fun cs => IsNumberWith Text.isDecimalDigit cs ∨ IsWordWith Text.isDecimalDigit cs) r)
        ∧ (∀ b ∈ build, Dotted IsIdentifier b)
        ∧ cs = (release.elim [] fun r => '-' :: r) ++ (build.elim [] fun b => '+' :: b)
        ∧ found = (release.map fun r => (4, r)).toList ++ (build.map fun b => (5, b)).toList := by
  have hrelease := takesAnywhere_marked (takesAnywhere_dotted takesAnywhere_release) '-' 4
  have hbuild := takesAnywhere_marked (takesAnywhere_dotted takesAnywhere_build) '+' 5
  simp only [endPattern, Pattern.sequence, takes_followedBy, takes_anchored, hrelease _ _ _ _,
    hbuild _ _ _ _, Anchor.holds, Option.isNone_iff_eq_none, List.head?_eq_none_iff]
  constructor
  · rintro ⟨_, _, _, _, ⟨release, hrelease, rfl, rfl⟩,
      ⟨_, _, _, _, ⟨build, hbuild, rfl, rfl⟩, ⟨hend, rfl, rfl⟩, rfl, rfl⟩, rfl, rfl⟩
    exact ⟨hend, release, build, hrelease, hbuild, by rw [List.append_nil], by rw [List.append_nil]⟩
  · rintro ⟨hend, release, build, hrelease, hbuild, rfl, rfl⟩
    exact ⟨_, _, _, _, ⟨release, hrelease, rfl, rfl⟩,
      ⟨_, _, _, _, ⟨build, hbuild, rfl, rfl⟩, ⟨hend, rfl, rfl⟩, rfl, rfl⟩,
      by rw [List.append_nil], by rw [List.append_nil]⟩

/-- The pattern without the letter takes the texts of versions, up to the end of the text, and
its captures keep their parts. -/
theorem takes_barePattern_iff :
    barePattern.Takes before cs rest found
      ↔ rest = [] ∧ ∃ v : SemanticVersion,
        v.WrittenWith Text.isDecimalDigit ∧ cs = v.text ∧ found = v.kept := by
  have hnumber := takesAnywhere_number.capture
  have hpoint := takesAnywhere_character '.'
  simp only [barePattern, Pattern.sequence, takes_followedBy, takes_endPattern_iff,
    hnumber _ _ _ _ _, hpoint _ _ _ _]
  constructor
  · rintro ⟨major, _, _, _, ⟨hmajor, rfl⟩, ⟨_, _, _, _, ⟨rfl, rfl⟩,
      ⟨minor, _, _, _, ⟨hminor, rfl⟩, ⟨_, _, _, _, ⟨rfl, rfl⟩,
      ⟨patch, _, _, _, ⟨hpatch, rfl⟩, ⟨hend, release, build, hrelease, hbuild, rfl, rfl⟩,
      rfl, rfl⟩, rfl, rfl⟩, rfl, rfl⟩, rfl, rfl⟩, rfl, rfl⟩
    exact ⟨hend, ⟨major, minor, patch, release, build⟩,
      ⟨hmajor, hminor, hpatch, hrelease, hbuild⟩, by simp [text], by simp [kept]⟩
  · rintro ⟨hend, v, ⟨hmajor, hminor, hpatch, hrelease, hbuild⟩, rfl, rfl⟩
    exact ⟨v.major, _, _, _, ⟨hmajor, rfl⟩, ⟨_, _, _, _, ⟨rfl, rfl⟩,
      ⟨v.minor, _, _, _, ⟨hminor, rfl⟩, ⟨_, _, _, _, ⟨rfl, rfl⟩,
      ⟨v.patch, _, _, _, ⟨hpatch, rfl⟩, ⟨hend, v.release, v.build, hrelease, hbuild, rfl, rfl⟩,
      rfl, rfl⟩, rfl, rfl⟩, rfl, rfl⟩, rfl, rfl⟩, by simp [text], by simp [kept]⟩

/-- The pattern takes a text only as a whole, and it takes the texts of versions with or without
the letter in front. -/
theorem takes_pattern_iff :
    pattern.Takes before cs rest found
      ↔ before = none ∧ rest = [] ∧ ∃ v : SemanticVersion,
        v.WrittenWith Text.isDecimalDigit ∧ v.Spells cs ∧ found = v.kept := by
  have hletter : TakesAnywhere (optional (character 'v')) fun cs kept =>
      (cs = [] ∧ kept = []) ∨ (cs = ['v'] ∧ kept = []) :=
    (takesAnywhere_character 'v').optional true
  simp only [pattern, Pattern.sequence, takes_followedBy, takes_anchored, takes_barePattern_iff,
    hletter _ _ _ _, Anchor.holds, Option.isNone_iff_eq_none]
  constructor
  · rintro ⟨_, _, _, _, ⟨hstart, rfl, rfl⟩,
      ⟨_, _, _, _, hletter, ⟨hend, v, hv, rfl, rfl⟩, rfl, rfl⟩, rfl, rfl⟩
    rcases hletter with ⟨rfl, rfl⟩ | ⟨rfl, rfl⟩
    · exact ⟨hstart, hend, v, hv, .inl rfl, rfl⟩
    · exact ⟨hstart, hend, v, hv, .inr rfl, rfl⟩
  · rintro ⟨hstart, hend, v, hv, rfl | rfl, rfl⟩
    · exact ⟨[], _, [], _, ⟨hstart, rfl, rfl⟩,
        ⟨[], _, [], _, .inl ⟨rfl, rfl⟩, ⟨hend, v, hv, rfl, rfl⟩, rfl, rfl⟩, rfl, rfl⟩
    · exact ⟨[], _, [], _, ⟨hstart, rfl, rfl⟩,
        ⟨['v'], _, [], _, .inr ⟨rfl, rfl⟩, ⟨hend, v, hv, rfl, rfl⟩, rfl, rfl⟩, rfl, rfl⟩

/-- The pattern is found in the texts of versions, as a whole, and its captures keep the parts. -/
theorem found_pattern_iff :
    pattern.Found cs found
      ↔ ∃ v : SemanticVersion,
        v.WrittenWith Text.isDecimalDigit ∧ v.Spells cs ∧ found = v.kept := by
  constructor
  · -- both ends are anchored, so that nothing stands before or after the part
    rintro ⟨start, part, rest, rfl, htakes⟩
    obtain ⟨hstart, rfl, v, hv, hspells, hfound⟩ := takes_pattern_iff.mp htakes
    cases List.getLast?_eq_none_iff.mp hstart
    rw [List.nil_append, List.append_nil]
    exact ⟨v, hv, hspells, hfound⟩
  · intro h
    refine ⟨[], cs, [], by rw [List.nil_append, List.append_nil], ?_⟩
    exact takes_pattern_iff.mpr ⟨rfl, rfl, h⟩

end

end SemanticVersion

end RowSignals
