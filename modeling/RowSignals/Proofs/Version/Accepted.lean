import RowSignals.Proofs.Version.Captures

/-!
# Accepted versions

Which texts a version scheme accepts as semantic versions, and what their parts are.

* `VersionScheme.captured?_semantic_iff`: the parts are what the captures of the pattern keep.
* `VersionScheme.parts_semantic`: what is accepted, what the parts give back, and what is refused.
-/

namespace RowSignals

namespace SemanticVersion

/-- A text is a semantic version, perhaps after the letter `v`. -/
def IsStandardText (cs : List Char) : Prop :=
  ∃ v : SemanticVersion, v.Standard ∧ v.Spells cs

/-- A text is a version whose numbers may go on in digits of any script, perhaps after the letter
`v`. -/
def IsVersionText (cs : List Char) : Prop :=
  ∃ v : SemanticVersion, v.WrittenWith Text.isDecimalDigit ∧ v.Spells cs

/-- A semantic version is one whose numbers may go on in digits of any script. -/
theorem IsStandardText.isVersionText {cs : List Char} (h : IsStandardText cs) :
    IsVersionText cs := by
  obtain ⟨v, hv, hspells⟩ := h
  exact ⟨v, (standard_iff.mp hv).mono fun c _ => isDecimalDigit_of_isDigit, hspells⟩

/-- Without digits of other scripts there is no difference. -/
theorem IsVersionText.isStandardText {cs : List Char} (h : IsVersionText cs)
    (hdigits : ∀ c ∈ cs, Text.isDecimalDigit c = true → c.isDigit = true) : IsStandardText cs := by
  obtain ⟨v, hv, hspells⟩ := h
  refine ⟨v, standard_iff.mpr (hv.mono fun c hc => hdigits c ?_), hspells⟩
  rcases hspells with rfl | rfl
  · exact hc
  · exact List.mem_cons_of_mem _ hc

theorem mem_of_mem_trim {cs : List Char} {c : Char} (h : c ∈ Text.trim cs) : c ∈ cs := by
  rw [Text.trim, Text.trimEnd, List.mem_reverse] at h
  have hstart := List.mem_reverse.mp ((List.dropWhile_suffix _).subset h)
  exact (List.dropWhile_suffix _).subset hstart

end SemanticVersion

namespace VersionScheme

open SemanticVersion

/-! ## Parts and captures -/

/-- The parts that captures kept, by the names of the captures. -/
def namedParts (names : List (String × Nat)) (kept : Pattern.Kept) : List (String × String) :=
  names.filterMap fun name => (kept.lookup name.2).map fun text => (name.1, String.ofList text)

/-- What the captures keep of a version, by their names, are its parts. -/
theorem namedParts_kept (v : SemanticVersion) :
    namedParts captureNames v.kept = semanticParts v := by
  obtain ⟨major, minor, patch, release, build⟩ := v
  cases release with
  | none => cases build <;> rfl
  | some release => cases build <;> rfl

/-- The parts of a version are what the captures of its pattern keep. -/
theorem captured?_semantic_iff {raw : String} {parts : List (String × String)} :
    semantic.captured? raw = some parts
      ↔ ∃ kept, pattern.Found (Text.trim raw.toList) kept
        ∧ parts = namedParts captureNames kept := by
  rw [captured?, Option.map_eq_some_iff]
  constructor
  · rintro ⟨v, hread, rfl⟩
    obtain ⟨hv, hspells⟩ := read?_eq_some_iff.mp hread
    exact ⟨v.kept, found_pattern_iff.mpr ⟨v, hv, hspells, rfl⟩, (namedParts_kept v).symm⟩
  · rintro ⟨kept, hfound, rfl⟩
    obtain ⟨v, hv, hspells, rfl⟩ := found_pattern_iff.mp hfound
    exact ⟨v, read?_eq_some_iff.mpr ⟨hv, hspells⟩, (namedParts_kept v).symm⟩

/-- There is no choice in what the captures of the pattern keep. -/
theorem found_pattern_unique {cs : List Char} {kept others : Pattern.Kept}
    (hkept : pattern.Found cs kept) (hothers : pattern.Found cs others) : kept = others := by
  obtain ⟨v, hv, hspells, rfl⟩ := found_pattern_iff.mp hkept
  obtain ⟨w, hw, hother, rfl⟩ := found_pattern_iff.mp hothers
  have hread := readBody?_eq_some_iff.mpr ⟨hv, hspells⟩
  rw [readBody?_eq_some_iff.mpr ⟨hw, hother⟩] at hread
  rw [Option.some.inj hread]

/-! ## What is accepted -/

/-- The text of a version from its parts. -/
def joined? (parts : List (String × String)) : Option String := do
  let major ← parts.lookup "major"
  let minor ← parts.lookup "minor"
  let patch ← parts.lookup "patch"
  let release := (parts.lookup "release").elim "" fun text => "-" ++ text
  let build := (parts.lookup "build").elim "" fun text => "+" ++ text
  return major ++ "." ++ minor ++ "." ++ patch ++ release ++ build

/-- The parts of a version, with the text and the scheme behind them, join to its text. -/
theorem joined?_semanticParts (v : SemanticVersion) (raw : String) :
    joined? (semanticParts v ++ [("raw", raw), ("scheme", "semver")])
      = some (String.ofList v.text) := by
  obtain ⟨major, minor, patch, release, build⟩ := v
  have hjoined : joined? (semanticParts ⟨major, minor, patch, release, build⟩
        ++ [("raw", raw), ("scheme", "semver")])
      = some (String.ofList major ++ "." ++ String.ofList minor ++ "." ++ String.ofList patch
        ++ (release.elim "" fun r => "-" ++ String.ofList r)
        ++ (build.elim "" fun b => "+" ++ String.ofList b)) := by
    cases release with
    | none => cases build <;> rfl
    | some release => cases build <;> rfl
  rw [hjoined, Option.some.injEq, ← String.toList_inj]
  cases release with
  | none => cases build <;> simp [text]
  | some release => cases build <;> simp [text]

/-- The parts of an accepted text are those of a version that it spells, then the text and the
name of the scheme. -/
theorem parts_semantic_iff {raw : String} {found : List (String × String)} :
    semantic.parts raw = .ok found
      ↔ ∃ v : SemanticVersion, (v.WrittenWith Text.isDecimalDigit ∧ v.Spells (Text.trim raw.toList))
        ∧ found = semanticParts v ++ [("raw", raw), ("scheme", "semver")] := by
  simp only [← read?_eq_some_iff]
  unfold parts captured?
  cases SemanticVersion.read? raw with
  | none => simp
  | some v => simp [name, eq_comm]

/-- A text is accepted, without its surrounding blanks, if it is a version whose numbers may go on
in digits of any script. So every semantic version is accepted, and nothing else is unless it has
digits of other scripts. The parts of an accepted text give back the version, and the text stands
among them as it was.

These parts are those of the written pattern: `read?_patternSource` says what the pattern means,
`captured?_semantic_iff` that the parts are what its captures keep, and `found_pattern_unique` that
they can keep nothing else. -/
theorem parts_semantic (raw : String) :
    ((∃ found, semantic.parts raw = .ok found) ↔ IsVersionText (Text.trim raw.toList))
      ∧ (IsStandardText (Text.trim raw.toList) → ∃ found, semantic.parts raw = .ok found)
      ∧ ((∀ c ∈ raw.toList, Text.isDecimalDigit c = true → c.isDigit = true) →
        ((∃ found, semantic.parts raw = .ok found) ↔ IsStandardText (Text.trim raw.toList)))
      ∧ (∀ found, semantic.parts raw = .ok found →
        ∃ v : SemanticVersion, v.Spells (Text.trim raw.toList)
          ∧ found = semanticParts v ++ [("raw", raw), ("scheme", "semver")]
          ∧ joined? found = some (String.ofList v.text))
      ∧ (¬ IsVersionText (Text.trim raw.toList) →
        semantic.parts raw = .error (.versionMismatch raw "semver")) := by
  have haccepted :
      (∃ found, semantic.parts raw = .ok found) ↔ IsVersionText (Text.trim raw.toList) := by
    simp only [parts_semantic_iff]
    constructor
    · rintro ⟨found, v, hv, -⟩
      exact ⟨v, hv⟩
    · rintro ⟨v, hv⟩
      exact ⟨_, v, hv, rfl⟩
  refine ⟨haccepted, fun h => haccepted.mpr h.isVersionText, fun hdigits => ?_,
    fun found hfound => ?_, fun hrefused => ?_⟩
  · rw [haccepted]
    exact ⟨fun h => h.isStandardText fun c hc => hdigits c (mem_of_mem_trim hc),
      IsStandardText.isVersionText⟩
  · obtain ⟨v, ⟨-, hspells⟩, rfl⟩ := parts_semantic_iff.mp hfound
    exact ⟨v, hspells, rfl, joined?_semanticParts v raw⟩
  · -- The only error is that of a text that no pattern matches.
    cases hparts : semantic.parts raw with
    | ok found => exact absurd (haccepted.mp ⟨found, hparts⟩) hrefused
    | error error =>
      unfold parts at hparts
      split at hparts
      · cases hparts
      · exact hparts.symm

/-- Digits of other scripts are accepted in numbers, where the standard has none. -/
theorem parts_semantic_other_digits :
    semantic.parts "1\u0663.0.0" = .ok [("major", "1\u0663"), ("minor", "0"), ("patch", "0"),
        ("raw", "1\u0663.0.0"), ("scheme", "semver")]
      ∧ ¬ IsStandardText (Text.trim "1\u0663.0.0".toList) := by
  have hread : SemanticVersion.read? "1\u0663.0.0"
      = some ⟨['1', '\u0663'], ['0'], ['0'], none, none⟩ := by
    decide +kernel
  refine ⟨?_, ?_⟩
  · unfold parts captured?
    rw [hread]
    rfl
  · -- a standard version in this text would be the one that the reader finds
    rintro ⟨v, hv, hspells⟩
    have hwritten := (standard_iff.mp hv).mono fun c _ => isDecimalDigit_of_isDigit
    rw [read?_eq_some_iff.mpr ⟨hwritten, hspells⟩, Option.some.injEq] at hread
    subst hread
    exact absurd (hv.major.2.1 '\u0663' (by decide)) (by decide)

end VersionScheme

end RowSignals
