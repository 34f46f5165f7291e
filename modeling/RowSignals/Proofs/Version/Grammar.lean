import RowSignals.Proofs.Number.Numeral
import RowSignals.Version.Semantic

/-!
# The grammar of semantic versions

What a semantic version is, and which texts are read as one. The reader takes a decimal digit of
any script where a number goes on, which the standard does not.

* `SemanticVersion.Standard`: the parts that a semantic version may have.
* `SemanticVersion.WrittenWith`: the same over any class of digits; `standard_iff`: the standard is
  the case of the usual ten digits.
* `SemanticVersion.readBare?_eq_some_iff`, `SemanticVersion.read?_eq_some_iff`: what is read.
-/

namespace RowSignals

namespace SemanticVersion

/-! ## Parts of versions -/

/-- A text of digits without leading zeros. -/
def IsNumber (cs : List Char) : Prop :=
  cs ≠ [] ∧ (∀ c ∈ cs, c.isDigit = true) ∧ (cs.head? = some '0' → cs = ['0'])

/-- A text of letters, digits and hyphens. -/
def IsIdentifier (cs : List Char) : Prop :=
  cs ≠ [] ∧ ∀ c ∈ cs, isIdentifierChar c = true

/-- An identifier that is a number if it has digits only. -/
def IsReleasePart (cs : List Char) : Prop :=
  IsIdentifier cs ∧ ((∀ c ∈ cs, c.isDigit = true) → IsNumber cs)

/-- One or more texts joined by points. -/
def Dotted (P : List Char → Prop) (cs : List Char) : Prop :=
  ∃ parts, parts ≠ [] ∧ (∀ part ∈ parts, P part) ∧ cs = ['.'].intercalate parts

/-- The parts of a semantic version. -/
structure Standard (v : SemanticVersion) : Prop where
  major : IsNumber v.major
  minor : IsNumber v.minor
  patch : IsNumber v.patch
  release : ∀ r ∈ v.release, Dotted IsReleasePart r
  build : ∀ b ∈ v.build, Dotted IsIdentifier b

/-- A zero, or one of the other usual digits with digits of a class after it. -/
def IsNumberWith (digit : Char → Bool) (cs : List Char) : Prop :=
  cs = ['0'] ∨ ∃ c rest, cs = c :: rest ∧ c.isDigit = true ∧ c ≠ '0' ∧ ∀ d ∈ rest, digit d = true

/-- An identifier whose first letter or hyphen may have digits of a class before it. -/
def IsWordWith (digit : Char → Bool) (cs : List Char) : Prop :=
  ∃ ds c rest, cs = ds ++ c :: rest ∧ (∀ d ∈ ds, digit d = true) ∧ (c.isAlpha || c == '-') = true ∧
    ∀ d ∈ rest, isIdentifierChar d = true

/-- The parts of a version, where decimal digits are those of a class. -/
structure WrittenWith (digit : Char → Bool) (v : SemanticVersion) : Prop where
  major : IsNumberWith digit v.major
  minor : IsNumberWith digit v.minor
  patch : IsNumberWith digit v.patch
  release : ∀ r ∈ v.release, Dotted (fun cs => IsNumberWith digit cs ∨ IsWordWith digit cs) r
  build : ∀ b ∈ v.build, Dotted IsIdentifier b

/-- A text is that of a version, perhaps after the letter `v`. -/
def Spells (v : SemanticVersion) (cs : List Char) : Prop :=
  cs = v.text ∨ cs = 'v' :: v.text

/-! ## The usual digits -/

theorem isIdentifierChar_of_isDigit {c : Char} (h : c.isDigit = true) :
    isIdentifierChar c = true := by
  simp [isIdentifierChar, Char.isAlphanum, h]

/-- A character of an identifier is a digit, or a letter or hyphen. -/
theorem isIdentifierChar_iff {c : Char} :
    isIdentifierChar c = true ↔ c.isDigit = true ∨ (c.isAlpha || c == '-') = true := by
  simp only [isIdentifierChar, Char.isAlphanum, Bool.or_eq_true]
  tauto

theorem isDigit_iff {c : Char} : c.isDigit = true ↔ 48 ≤ c.toNat ∧ c.toNat ≤ 57 := by
  simp only [Char.isDigit, Bool.and_eq_true, decide_eq_true_eq]
  rfl

theorem wordStart_iff {c : Char} :
    (c.isAlpha || c == '-') = true
      ↔ 65 ≤ c.toNat ∧ c.toNat ≤ 90 ∨ 97 ≤ c.toNat ∧ c.toNat ≤ 122 ∨ c.toNat = 45 := by
  simp only [Char.isAlpha, Char.isUpper, Char.isLower, Bool.or_eq_true, Bool.and_eq_true,
    decide_eq_true_eq, beq_iff_eq, or_assoc, ← Char.toNat_inj]
  rfl

theorem not_isDigit_of_wordStart {c : Char} (h : (c.isAlpha || c == '-') = true) :
    c.isDigit = false := by
  rw [wordStart_iff] at h
  rw [Bool.eq_false_iff, ne_eq, isDigit_iff]
  omega

theorem isNumberWith_isDigit_iff {cs : List Char} :
    IsNumberWith Char.isDigit cs ↔ IsNumber cs := by
  constructor
  · rintro (rfl | ⟨c, rest, rfl, hc, hzero, hrest⟩)
    · exact ⟨List.cons_ne_nil _ _, List.forall_mem_singleton.mpr rfl, fun _ => rfl⟩
    · refine ⟨List.cons_ne_nil _ _, ?_, fun hhead => absurd (Option.some.inj hhead) hzero⟩
      rintro d (_ | ⟨_, hd⟩)
      · exact hc
      · exact hrest d hd
  · rintro ⟨hne, hdigits, hzero⟩
    cases cs with
    | nil => exact absurd rfl hne
    | cons c rest =>
      by_cases hc : c = '0'
      · subst hc
        exact .inl (hzero rfl)
      · exact .inr ⟨c, rest, rfl, hdigits c List.mem_cons_self, hc,
          fun d hd => hdigits d (List.mem_cons_of_mem _ hd)⟩

/-- Numbers and words in ASCII digits are the release parts of the standard: a word is an
identifier with a letter or hyphen in it. -/
theorem isReleasePart_iff {cs : List Char} :
    IsNumberWith Char.isDigit cs ∨ IsWordWith Char.isDigit cs ↔ IsReleasePart cs := by
  rw [isNumberWith_isDigit_iff]
  constructor
  · rintro (h | ⟨ds, c, rest, rfl, hds, hc, hrest⟩)
    · exact ⟨⟨h.1, fun c hc => isIdentifierChar_of_isDigit (h.2.1 c hc)⟩, fun _ => h⟩
    · refine ⟨⟨by simp, fun d hd => ?_⟩, fun hall => ?_⟩
      · rcases List.mem_append.mp hd with hd | hd
        · exact isIdentifierChar_of_isDigit (hds d hd)
        · rcases List.mem_cons.mp hd with rfl | hd
          · exact isIdentifierChar_iff.mpr (.inr hc)
          · exact hrest d hd
      · have hdigit := hall c (by simp)
        rw [not_isDigit_of_wordStart hc] at hdigit
        cases hdigit
  · rintro ⟨hidentifier, hnumber⟩
    by_cases hall : ∀ c ∈ cs, c.isDigit = true
    · exact .inl (hnumber hall)
    -- The first character that is no digit is a letter or hyphen.
    have hne : cs.dropWhile Char.isDigit ≠ [] := by
      rwa [ne_eq, List.dropWhile_eq_nil_iff]
    obtain ⟨c, rest, hdrop⟩ := List.exists_cons_of_ne_nil hne
    have hcs : cs = cs.takeWhile Char.isDigit ++ c :: rest := by
      rw [← hdrop, List.takeWhile_append_dropWhile]
    have hmem : ∀ d ∈ c :: rest, isIdentifierChar d = true := by
      intro d hd
      refine hidentifier.2 d ?_
      rw [hcs]
      exact List.mem_append_right _ hd
    have hc : c.isDigit = false := by
      have hhead := List.head_dropWhile_not Char.isDigit hne
      simpa only [hdrop, List.head_cons] using hhead
    have hword : (c.isAlpha || c == '-') = true :=
      (isIdentifierChar_iff.mp (hmem c List.mem_cons_self)).resolve_left (by simp [hc])
    exact .inr ⟨_, c, rest, hcs, fun d hd => List.mem_takeWhile_imp hd, hword,
      fun d hd => hmem d (List.mem_cons_of_mem _ hd)⟩

/-- The standard has the usual digits. -/
theorem standard_iff {v : SemanticVersion} : v.Standard ↔ v.WrittenWith Char.isDigit := by
  have hparts : (fun cs => IsNumberWith Char.isDigit cs ∨ IsWordWith Char.isDigit cs)
      = IsReleasePart :=
    funext fun cs => propext isReleasePart_iff
  constructor
  · rintro ⟨hmajor, hminor, hpatch, hrelease, hbuild⟩
    refine ⟨isNumberWith_isDigit_iff.mpr hmajor, isNumberWith_isDigit_iff.mpr hminor,
      isNumberWith_isDigit_iff.mpr hpatch, ?_, hbuild⟩
    rwa [hparts]
  · rintro ⟨hmajor, hminor, hpatch, hrelease, hbuild⟩
    rw [hparts] at hrelease
    exact ⟨isNumberWith_isDigit_iff.mp hmajor, isNumberWith_isDigit_iff.mp hminor,
      isNumberWith_isDigit_iff.mp hpatch, hrelease, hbuild⟩

/-! ## Classes of digits -/

section
variable {p q : Char → Bool} {cs : List Char}

/-- A number is one in any class of digits that has its digits. -/
theorem IsNumberWith.mono (h : ∀ c ∈ cs, p c = true → q c = true) (hcs : IsNumberWith p cs) :
    IsNumberWith q cs := by
  rcases hcs with rfl | ⟨c, rest, rfl, hc, hzero, hrest⟩
  · exact .inl rfl
  · exact .inr ⟨c, rest, rfl, hc, hzero, fun d hd => h d (List.mem_cons_of_mem _ hd) (hrest d hd)⟩

/-- A word is one in any class of digits that has its digits. -/
theorem IsWordWith.mono (h : ∀ c ∈ cs, p c = true → q c = true) (hcs : IsWordWith p cs) :
    IsWordWith q cs := by
  obtain ⟨ds, c, rest, rfl, hds, hc, hrest⟩ := hcs
  exact ⟨ds, c, rest, rfl, fun d hd => h d (List.mem_append_left _ hd) (hds d hd), hc, hrest⟩

theorem mem_intercalate {parts : List (List Char)} {part : List Char} (hpart : part ∈ parts)
    {c : Char} (hc : c ∈ part) : c ∈ ['.'].intercalate parts := by
  induction parts with
  | nil => cases hpart
  | cons first rest ih =>
    cases rest with
    | nil =>
      rw [List.mem_singleton.mp hpart] at hc
      rwa [List.intercalate_singleton]
    | cons second rest =>
      rw [List.intercalate_cons_cons]
      rcases List.mem_cons.mp hpart with rfl | hpart
      · exact List.mem_append_left _ (List.mem_append_left _ hc)
      · exact List.mem_append_right _ (ih hpart)

/-- The characters of a release stand in the text of the version. -/
theorem mem_text_release {v : SemanticVersion} {r : List Char} (hr : r ∈ v.release) {c : Char}
    (hc : c ∈ r) : c ∈ v.text := by
  have hr : v.release = some r := hr
  simp [text, hr, hc]

/-- Only the digits that a version has matter. -/
theorem WrittenWith.mono {v : SemanticVersion} (h : ∀ c ∈ v.text, p c = true → q c = true)
    (hv : v.WrittenWith p) : v.WrittenWith q := by
  obtain ⟨hmajor, hminor, hpatch, hrelease, hbuild⟩ := hv
  refine ⟨hmajor.mono fun c hc => h c ?_, hminor.mono fun c hc => h c ?_,
    hpatch.mono fun c hc => h c ?_, fun r hr => ?_, hbuild⟩
  · simp [text, hc]
  · simp [text, hc]
  · simp [text, hc]
  · obtain ⟨parts, hne, hparts, heq⟩ := hrelease r hr
    refine ⟨parts, hne, fun part hpart => ?_, heq⟩
    have hmem : ∀ c ∈ part, p c = true → q c = true := fun c hc =>
      h c (mem_text_release hr (heq ▸ mem_intercalate hpart hc))
    exact (hparts part hpart).imp (IsNumberWith.mono hmem) (IsWordWith.mono hmem)

end

/-! ## Tests of parts -/

theorem isNumber_iff {cs : List Char} :
    isNumber cs = true ↔ IsNumberWith Text.isDecimalDigit cs := by
  cases cs with
  | nil => simp [isNumber, IsNumberWith]
  | cons c rest =>
    by_cases hc : c = '0'
    · subst hc
      simp [isNumber, IsNumberWith]
    · simp [isNumber, IsNumberWith, hc]

/-- Letters and hyphens are no digits of any script. -/
theorem not_isDecimalDigit_of_wordStart {c : Char} (h : (c.isAlpha || c == '-') = true) :
    Text.isDecimalDigit c = false := by
  have hascii : c.val < 128 := by
    rw [UInt32.lt_iff_toNat_lt]
    change c.toNat < 128
    rw [wordStart_iff] at h
    omega
  rw [Text.isDecimalDigit, if_pos hascii]
  exact not_isDigit_of_wordStart h

/-- The reader's test of words: after the digits come a letter or a hyphen and then characters
of identifiers. -/
theorem isWordIdentifier_iff {cs : List Char} :
    isWordIdentifier cs = true ↔ IsWordWith Text.isDecimalDigit cs := by
  constructor
  · intro h
    unfold isWordIdentifier at h
    cases hdrop : cs.dropWhile Text.isDecimalDigit with
    | nil => simp [hdrop] at h
    | cons c rest =>
      simp only [hdrop, Bool.and_eq_true, List.all_eq_true] at h
      refine ⟨cs.takeWhile Text.isDecimalDigit, c, rest, ?_, fun d hd => List.mem_takeWhile_imp hd,
        h.1, h.2⟩
      rw [← hdrop, List.takeWhile_append_dropWhile]
  · rintro ⟨ds, c, rest, rfl, hds, hc, hrest⟩
    have hdrop : (ds ++ c :: rest).dropWhile Text.isDecimalDigit = c :: rest :=
      Number.dropWhile_append_stop hds (.cons _ (not_isDecimalDigit_of_wordStart hc))
    rw [isWordIdentifier, hdrop]
    simp only [hc, Bool.true_and, List.all_eq_true]
    exact hrest

theorem isReleaseIdentifier_iff {cs : List Char} :
    isReleaseIdentifier cs = true
      ↔ IsNumberWith Text.isDecimalDigit cs ∨ IsWordWith Text.isDecimalDigit cs := by
  rw [isReleaseIdentifier, Bool.or_eq_true, isNumber_iff, isWordIdentifier_iff]

theorem isBuildIdentifier_iff {cs : List Char} : isBuildIdentifier cs = true ↔ IsIdentifier cs := by
  simp [isBuildIdentifier, IsIdentifier]

/-! ## Taking texts apart -/

theorem splitOn_eq (separator : Char) (cs : List Char) :
    Text.splitOn (· == separator) cs = cs.splitOn separator := by
  induction cs with
  | nil => rfl
  | cons c cs ih =>
    have hne : Text.splitOn (· == separator) cs ≠ [] := ih ▸ List.splitOnP_ne_nil _ _
    obtain ⟨piece, pieces, hpieces⟩ := List.exists_cons_of_ne_nil hne
    rw [List.splitOn, List.splitOnP_cons_eq_if_modifyHead, ← List.splitOn, ← ih, Text.splitOn,
      hpieces]
    rfl

theorem intercalate_pieces (cs : List Char) : ['.'].intercalate (pieces cs) = cs := by
  rw [pieces, splitOn_eq, List.intercalate_splitOn]

/-- Parts without points are the pieces of the text that they join to. -/
theorem pieces_intercalate {parts : List (List Char)} (hne : parts ≠ [])
    (h : ∀ part ∈ parts, '.' ∉ part) : pieces (['.'].intercalate parts) = parts := by
  rw [pieces, splitOn_eq, List.splitOn_intercalate '.' h hne]

/-- The pieces of a text between points pass a test that points do not pass. -/
theorem all_pieces_iff {test : List Char → Bool} {P : List Char → Prop}
    (htest : ∀ cs, test cs = true ↔ P cs) (hpoint : ∀ cs, P cs → '.' ∉ cs) {cs : List Char} :
    (pieces cs).all test = true ↔ Dotted P cs := by
  rw [List.all_eq_true]
  constructor
  · intro h
    refine ⟨pieces cs, ?_, fun part hpart => (htest part).mp (h part hpart),
      (intercalate_pieces cs).symm⟩
    rw [pieces, splitOn_eq]
    exact List.splitOnP_ne_nil _ _
  · rintro ⟨parts, hne, hparts, rfl⟩ part hpart
    rw [pieces_intercalate hne fun part hpart => hpoint part (hparts part hpart)] at hpart
    exact (htest part).mpr (hparts part hpart)

section
variable {separator c : Char} {cs before : List Char} {after : Option (List Char)}

/-- A text that begins with the separator is cut before its first character. -/
theorem cutAt_cons_separator : cutAt separator (separator :: cs) = ([], some cs) := by
  simp [cutAt, Text.splitFirst?]

/-- A character other than the separator stays with what comes before the cut. -/
theorem cutAt_cons (h : c ≠ separator) :
    cutAt separator (c :: cs) = (c :: (cutAt separator cs).1, (cutAt separator cs).2) := by
  unfold cutAt
  rw [Text.splitFirst?, if_neg (by simpa using h)]
  cases Text.splitFirst? (· == separator) cs with
  | none => rfl
  | some found => rfl

/-- A text is cut at the first separator. -/
theorem cutAt_eq_iff :
    cutAt separator cs = (before, after)
      ↔ cs = before ++ (after.elim [] fun cs => separator :: cs) ∧ separator ∉ before := by
  induction cs generalizing before with
  | nil =>
    have hnil : cutAt separator [] = ([], none) := rfl
    rw [hnil]
    constructor
    · rintro ⟨rfl, rfl⟩
      simp
    · rintro ⟨h, -⟩
      cases after with
      | none => simpa using h
      | some rest => simp at h
  | cons c cs ih =>
    by_cases hc : c = separator
    · -- the cut is here, so nothing can stand before it
      subst hc
      rw [cutAt_cons_separator]
      constructor
      · rintro ⟨rfl, rfl⟩
        simp
      · rintro ⟨h, hbefore⟩
        cases before with
        | nil =>
          cases after with
          | none => cases h
          | some rest =>
            cases h
            rfl
        | cons d before =>
          cases h
          exact absurd List.mem_cons_self hbefore
    · rw [cutAt_cons hc, Prod.mk.injEq]
      constructor
      · rintro ⟨rfl, rfl⟩
        obtain ⟨hcs, hnot⟩ := (@ih (cutAt separator cs).1).mp rfl
        refine ⟨by rw [List.cons_append, ← hcs], ?_⟩
        exact List.not_mem_cons_of_ne_of_not_mem (Ne.symm hc) hnot
      · rintro ⟨h, hbefore⟩
        cases before with
        | nil =>
          cases after with
          | none => cases h
          | some rest =>
            cases h
            exact absurd rfl hc
        | cons d before =>
          cases h
          have hcut := ih.mpr ⟨rfl, fun hmem => hbefore (List.mem_cons_of_mem _ hmem)⟩
          exact ⟨by rw [hcut], by rw [hcut]⟩

end

/-! ## Reading versions -/

section
variable {v : SemanticVersion} {cs : List Char}

theorem isDecimalDigit_of_isDigit {c : Char} (h : c.isDigit = true) :
    Text.isDecimalDigit c = true := by
  have hascii : c.val < 128 := by
    rw [UInt32.lt_iff_toNat_lt]
    exact (isDigit_iff.mp h).2.trans_lt (by decide)
  rwa [Text.isDecimalDigit, if_pos hascii]

theorem not_mem_number {c : Char} (hc : Text.isDecimalDigit c = false)
    (h : IsNumberWith Text.isDecimalDigit cs) : c ∉ cs := by
  intro hmem
  have hdigit : Text.isDecimalDigit c = true := by
    rcases h with rfl | ⟨first, rest, rfl, hfirst, -, hrest⟩
    · exact List.mem_singleton.mp hmem ▸ rfl
    · rcases List.mem_cons.mp hmem with rfl | hmem
      · exact isDecimalDigit_of_isDigit hfirst
      · exact hrest c hmem
  exact Bool.false_ne_true (hc.symm.trans hdigit)

/-- A character that no identifier may have is in none. -/
theorem not_mem_identifier {c : Char} (hc : isIdentifierChar c = false) (h : IsIdentifier cs) :
    c ∉ cs :=
  fun hmem => Bool.false_ne_true (hc.symm.trans (h.2 c hmem))

/-- A character that is neither a digit nor one of identifiers is in no release part. -/
theorem not_mem_releasePart {c : Char} (hdigit : Text.isDecimalDigit c = false)
    (hidentifier : isIdentifierChar c = false)
    (h : IsNumberWith Text.isDecimalDigit cs ∨ IsWordWith Text.isDecimalDigit cs) : c ∉ cs := by
  rcases h with h | ⟨ds, first, rest, rfl, hds, hfirst, hrest⟩
  · exact not_mem_number hdigit h
  · intro hmem
    rcases List.mem_append.mp hmem with hmem | hmem
    · exact Bool.false_ne_true (hdigit.symm.trans (hds c hmem))
    · rcases List.mem_cons.mp hmem with rfl | hmem
      · exact Bool.false_ne_true (hidentifier.symm.trans (isIdentifierChar_iff.mpr (.inr hfirst)))
      · exact Bool.false_ne_true (hidentifier.symm.trans (hrest c hmem))

/-- A character other than the point that is in no part is not in the parts joined by points. -/
theorem not_mem_intercalate {c : Char} (hc : c ≠ '.') {parts : List (List Char)}
    (h : ∀ part ∈ parts, c ∉ part) : c ∉ ['.'].intercalate parts := by
  induction parts with
  | nil => simp
  | cons first rest ih =>
    have hrest := ih fun part hpart => h part (List.mem_cons_of_mem _ hpart)
    cases rest with
    | nil =>
      rw [List.intercalate_singleton]
      exact h first List.mem_cons_self
    | cons second rest =>
      rw [List.intercalate_cons_cons, List.mem_append, List.mem_append, List.mem_singleton]
      rintro ((hmem | rfl) | hmem)
      · exact h first List.mem_cons_self hmem
      · exact hc rfl
      · exact hrest hmem

/-- The numbers of a version, joined by points. -/
def numbers (v : SemanticVersion) : List Char :=
  ['.'].intercalate [v.major, v.minor, v.patch]

/-- A version up to its build. -/
def released (v : SemanticVersion) : List Char :=
  v.numbers ++ (v.release.elim [] fun r => '-' :: r)

theorem text_eq (v : SemanticVersion) :
    v.text = v.released ++ (v.build.elim [] fun b => '+' :: b) := by
  simp [text, released, numbers, List.intercalate_cons_cons, List.intercalate_singleton]

/-- The three numbers of a version are the pieces of the text before its release, as no number
has a point. -/
theorem WrittenWith.pieces_numbers (h : v.WrittenWith Text.isDecimalDigit) :
    pieces v.numbers = [v.major, v.minor, v.patch] := by
  refine pieces_intercalate (List.cons_ne_nil _ _) ?_
  simp only [List.forall_mem_cons, List.not_mem_nil, false_implies, implies_true, and_true]
  exact ⟨not_mem_number rfl h.major, not_mem_number rfl h.minor, not_mem_number rfl h.patch⟩

/-- Between the numbers there are only points, and in them only digits. -/
theorem WrittenWith.not_mem_numbers (h : v.WrittenWith Text.isDecimalDigit) {c : Char}
    (hc : Text.isDecimalDigit c = false) (hpoint : c ≠ '.') : c ∉ v.numbers := by
  refine not_mem_intercalate hpoint ?_
  simp only [List.forall_mem_cons, List.not_mem_nil, false_implies, implies_true, and_true]
  exact ⟨not_mem_number hc h.major, not_mem_number hc h.minor, not_mem_number hc h.patch⟩

/-- No plus sign stands in front of the build, so the first one cuts it off. -/
theorem WrittenWith.not_mem_released (h : v.WrittenWith Text.isDecimalDigit) :
    '+' ∉ v.released := by
  rw [released, List.mem_append]
  rintro (hmem | hmem)
  · exact h.not_mem_numbers rfl (by decide) hmem
  · cases hrelease : v.release with
    | none => simp [hrelease] at hmem
    | some r =>
      obtain ⟨parts, -, hparts, rfl⟩ := h.release r hrelease
      rw [hrelease] at hmem
      rcases List.mem_cons.mp hmem with hmem | hmem
      · exact absurd hmem (by decide)
      · exact not_mem_intercalate (by decide)
          (fun part hpart => not_mem_releasePart rfl rfl (hparts part hpart)) hmem

/-- What is read as a version without the letter in front. -/
theorem readBare?_eq_some_iff :
    readBare? cs = some v ↔ v.WrittenWith Text.isDecimalDigit ∧ cs = v.text := by
  have hrelease (r : List Char) :
      (pieces r).all isReleaseIdentifier = true ↔ Dotted
        (fun cs => IsNumberWith Text.isDecimalDigit cs ∨ IsWordWith Text.isDecimalDigit cs) r :=
    all_pieces_iff (fun cs => isReleaseIdentifier_iff) fun cs h => not_mem_releasePart rfl rfl h
  have hbuild (b : List Char) :
      (pieces b).all isBuildIdentifier = true ↔ Dotted IsIdentifier b :=
    all_pieces_iff (fun cs => isBuildIdentifier_iff) fun cs h => not_mem_identifier rfl h
  constructor
  · intro h
    -- The build is cut off before the release, so a hyphen in it starts no release.
    rcases hplus : cutAt '+' cs with ⟨rest, build⟩
    rcases hhyphen : cutAt '-' rest with ⟨numbers, release⟩
    simp only [readBare?, hplus, hhyphen] at h
    split at h
    case h_2 => cases h
    case h_1 major minor patch hpieces =>
      split at h
      case isFalse => cases h
      case isTrue htests =>
        cases h
        simp only [Bool.and_eq_true, Option.all_eq_true, hrelease, hbuild, isNumber_iff] at htests
        obtain ⟨⟨⟨⟨hmajor, hminor⟩, hpatch⟩, hrelease⟩, hbuild⟩ := htests
        refine ⟨⟨hmajor, hminor, hpatch, hrelease, hbuild⟩, ?_⟩
        -- Each cut and each split is undone by putting its mark back.
        have hnumbers : numbers = ['.'].intercalate [major, minor, patch] := by
          rw [← hpieces, intercalate_pieces]
        rw [text_eq, released, SemanticVersion.numbers, ← hnumbers,
          ← (cutAt_eq_iff.mp hhyphen).1]
        exact (cutAt_eq_iff.mp hplus).1
  · rintro ⟨hv, rfl⟩
    -- The first plus and the first hyphen are those that the text was written with: what stands
    -- before them has none.
    have hplus : cutAt '+' v.text = (v.released, v.build) :=
      cutAt_eq_iff.mpr ⟨v.text_eq, hv.not_mem_released⟩
    have hhyphen : cutAt '-' v.released = (v.numbers, v.release) :=
      cutAt_eq_iff.mpr ⟨rfl, hv.not_mem_numbers rfl (by decide)⟩
    have htests : (isNumber v.major && isNumber v.minor && isNumber v.patch &&
        v.release.all (fun r => (pieces r).all isReleaseIdentifier) &&
        v.build.all (fun b => (pieces b).all isBuildIdentifier)) = true := by
      simp only [Bool.and_eq_true, Option.all_eq_true, hrelease, hbuild, isNumber_iff]
      exact ⟨⟨⟨⟨hv.major, hv.minor⟩, hv.patch⟩, hv.release⟩, hv.build⟩
    simp only [readBare?, hplus, hhyphen, hv.pieces_numbers, htests, if_true]

/-- The text of a version starts with a digit. -/
theorem WrittenWith.text_head (h : v.WrittenWith Text.isDecimalDigit) (rest : List Char) :
    v.text ≠ 'v' :: rest := by
  intro htext
  have hmem : 'v' ∈ v.major := by
    rcases h.major with hzero | ⟨c, more, hmajor, -, -, -⟩
    · simp [text, hzero] at htext
    · simp only [text, hmajor, List.cons_append, List.cons.injEq] at htext
      rw [hmajor, htext.1]
      exact List.mem_cons_self
  exact not_mem_number rfl h.major hmem

/-- What is read as a version: one in digits of any script, perhaps after the letter `v`. -/
theorem readBody?_eq_some_iff :
    readBody? cs = some v ↔ v.WrittenWith Text.isDecimalDigit ∧ v.Spells cs := by
  unfold readBody? Spells
  split
  case h_1 rest =>
    rw [readBare?_eq_some_iff]
    constructor
    · rintro ⟨hv, rfl⟩
      exact ⟨hv, .inr rfl⟩
    · rintro ⟨hv, h | h⟩
      · exact absurd h.symm (hv.text_head rest)
      · exact ⟨hv, (List.cons.inj h).2⟩
  case h_2 hletter =>
    rw [readBare?_eq_some_iff]
    constructor
    · rintro ⟨hv, rfl⟩
      exact ⟨hv, .inl rfl⟩
    · rintro ⟨hv, h | h⟩
      · exact ⟨hv, h⟩
      · exact absurd h (hletter _)

/-- The reader finds a version in a text if the text without its surrounding blanks spells it,
and no other one. -/
theorem read?_eq_some_iff {raw : String} :
    read? raw = some v ↔ v.WrittenWith Text.isDecimalDigit ∧ v.Spells (Text.trim raw.toList) :=
  readBody?_eq_some_iff

end

end SemanticVersion

end RowSignals
