import RowSignals.Proofs.Expr.Compiled
import RowSignals.Proofs.Expr.Printing
import RowSignals.Proofs.Expr.Replacing

/-!
# The longest known name

Several known names can stand at one place of a text, some of them in front of others. The longest
one is replaced, whatever its characters are. So any known name can be written bare where nothing
stands around it.

* `StandsAt`, `longestReference_eq_some_iff`: what is found is the longest name that stands there.
* `longestReference_self`: a name is the longest one in its own text.
* `CompiledExpr.compile_name_alone`: a known name alone compiles to its look-up.
-/

namespace RowSignals

namespace Names

theorem byteCount_append (name more : List Char) :
    byteCount (name ++ more) = byteCount name + byteCount more := by
  have hfrom (bytes : Nat) : more.foldl (fun bytes c => bytes + c.utf8Size) bytes
      = bytes + byteCount more := by
    unfold byteCount
    induction more generalizing bytes with
    | nil => rfl
    | cons c more ih =>
      rw [List.foldl_cons, List.foldl_cons, ih, ih (0 + c.utf8Size)]
      omega
  rw [byteCount, List.foldl_append, hfrom]
  rfl

/-- Every character has a byte, so a text without bytes is empty. -/
theorem eq_nil_of_byteCount_eq_zero {name : List Char} (h : byteCount name = 0) : name = [] := by
  cases name with
  | nil => rfl
  | cons c rest =>
    have hcons := byteCount_append [c] rest
    have hpos := c.utf8Size_pos
    have hfirst : byteCount [c] = 0 + c.utf8Size := rfl
    rw [List.singleton_append] at hcons
    omega

/-- Of two names at the front of a text that have the same length neither goes on after the
other. -/
theorem eq_of_byteCount_eq {name other text : List Char} (hname : name <+: text)
    (hother : other <+: text) (h : byteCount name = byteCount other) : name = other := by
  rcases List.prefix_or_prefix_of_prefix hname hother with ⟨more, rfl⟩ | ⟨more, rfl⟩
  · rw [byteCount_append] at h
    obtain rfl := eq_nil_of_byteCount_eq_zero (by omega : byteCount more = 0)
    exact (List.append_nil name).symm
  · rw [byteCount_append] at h
    obtain rfl := eq_nil_of_byteCount_eq_zero (by omega : byteCount more = 0)
    exact List.append_nil other

/-- None of the names is longer than the longest one. -/
theorem byteCount_le_foldl_longer (name : List Char) (others : List (List Char)) :
    ∀ other ∈ name :: others, byteCount other ≤ byteCount (others.foldl longer name) := by
  induction others generalizing name with
  | nil =>
    intro other hother
    rw [List.mem_singleton.mp hother]
    exact Nat.le_refl _
  | cons first others ih =>
    have hlonger : byteCount name ≤ byteCount (longer name first) ∧
        byteCount first ≤ byteCount (longer name first) := by
      unfold longer
      split
      · omega
      · omega
    have hfirst := ih (longer name first) _ List.mem_cons_self
    intro other hother
    rw [List.foldl_cons]
    rcases List.mem_cons.mp hother with rfl | hother
    · exact Nat.le_trans hlonger.1 hfirst
    · rcases List.mem_cons.mp hother with rfl | hother
      · exact Nat.le_trans hlonger.2 hfirst
      · exact ih _ other (List.mem_cons_of_mem _ hother)

/-- The name may be replaced at the front of a text. -/
def StandsAt (names : List (List Char)) (text name : List Char) : Prop :=
  name ∈ names ∧ isReplaceable name = true ∧ (referenceAt? name text).isSome = true

/-- A name that stands at a place is what the text starts with there. -/
theorem StandsAt.isPrefix {names : List (List Char)} {text name : List Char}
    (h : StandsAt names text name) : name <+: text := by
  obtain ⟨after, hafter⟩ := Option.isSome_iff_exists.mp h.2.2
  exact ⟨after, (referenceAt?_eq_some_iff.mp hafter).1.symm⟩

/-- What is found is the longest name that stands there. -/
theorem longestReference_eq_some_iff {names : List (List Char)} {text name : List Char} :
    longestReference names text = some name ↔ StandsAt names text name ∧
      ∀ other, StandsAt names text other → byteCount other ≤ byteCount name := by
  have hfilter (other : List Char) : StandsAt names text other ↔
      other ∈ names.filter fun name => isReplaceable name && (referenceAt? name text).isSome := by
    rw [List.mem_filter, Bool.and_eq_true]
    exact Iff.rfl
  -- if a name stands there, the longest one is found
  have hfound {other : List Char} (hother : StandsAt names text other) :
      ∃ longest, longestReference names text = some longest ∧
        ∀ other, StandsAt names text other → byteCount other ≤ byteCount longest := by
    unfold longestReference
    rw [hfilter] at hother
    split
    · rename_i hnone
      rw [hnone] at hother
      cases hother
    · rename_i first others hsome
      refine ⟨_, rfl, fun other hother => ?_⟩
      rw [hfilter, hsome] at hother
      exact byteCount_le_foldl_longer first others other hother
  constructor
  · intro h
    have hstands : StandsAt names text name := longestReference_mem h
    obtain ⟨longest, hlongest, hmax⟩ := hfound hstands
    obtain rfl := Option.some.inj (h.symm.trans hlongest)
    exact ⟨hstands, hmax⟩
  · rintro ⟨hstands, hmax⟩
    obtain ⟨longest, hlongest, hothers⟩ := hfound hstands
    have hother : StandsAt names text longest := longestReference_mem hlongest
    have hcount := Nat.le_antisymm (hothers name hstands) (hmax longest hother)
    rw [hlongest, eq_of_byteCount_eq hstands.isPrefix hother.isPrefix hcount]

/-- A name stands in its own text, and no other name that stands there is longer. -/
theorem longestReference_self {names : List (List Char)} {name : List Char} (hmem : name ∈ names)
    (hreplaceable : isReplaceable name = true) : longestReference names name = some name := by
  have hends : Ends [] := ⟨.nil _, by decide⟩
  have hreference : referenceAt? name name = some [] :=
    referenceAt?_eq_some_iff.mpr ⟨(List.append_nil name).symm, hends⟩
  rw [longestReference_eq_some_iff]
  constructor
  · refine ⟨hmem, hreplaceable, ?_⟩
    rw [hreference]
    rfl
  · intro other hother
    obtain ⟨more, hmore⟩ := hother.isPrefix
    rw [← hmore, byteCount_append]
    exact Nat.le_add_right _ _

/-- A name that is neither quoted nor a comment gives way to its look-up. -/
theorem resolveNames_alone {known : List String} {name : String} (hmem : name ∈ known)
    (hreplaceable : isReplaceable name.toList = true)
    (hplain : ∀ c ∈ name.toList.head?, Plain c) :
    resolveNames known name = Expr.lookupText name := by
  have hfound := longestReference_self (List.mem_map_of_mem hmem) hreplaceable
  have hlookup : resolve (known.map String.toList) none name.toList
      = (Expr.lookupText name).toList := by
    cases hname : name.toList with
    | nil =>
      rw [hname] at hreplaceable
      cases hreplaceable
    | cons c rest =>
      rw [hname] at hfound hplain
      rw [resolve_plain (hplain c rfl), if_neg (by decide), hfound]
      dsimp only
      rw [List.drop_length, resolve_nil, List.append_nil, ← hname, String.ofList_toList]
  rw [← String.toList_inj, ← hlookup]
  exact String.toList_ofList

end Names

/-! ## Names that stand alone -/

/-- The text of a looked up source is read as that source, whatever its name. -/
theorem Expr.parse_lookupText (key : String) : parse (lookupText key) = .ok (.source key) := by
  have hkinds : (Lexer.tokenize (lookupText key)).kinds
      = [.identifier sourcesName, .leftBracket, .string key, .rightBracket] := by
    have hlookup := kinds_lookup key []
    rwa [List.append_nil, Lexer.kinds_nil, ← Lexer.kinds_tokenize] at hlookup
  have hderives : Derives .primary 0
      [.identifier sourcesName, .leftBracket, .string key, .rightBracket] (.source key) [] :=
    .lookup
  refine parseTokens_eq_ok_iff.mpr ⟨1, by decide, ?_⟩
  rw [hkinds]
  exact .plain hderives.or_of_primary

namespace CompiledExpr

/-- A known name that is no number and opens neither a string nor a comment can be written bare,
whatever other characters it has and whatever other names are known. -/
theorem compile_name_alone {known : List String} {name : String} (hknown : name ∈ known)
    (hne : name ≠ "") (hnumber : Names.isNumeral name.toList = false)
    (hstart : ∀ c ∈ name.toList.head?, c ≠ '"' ∧ c ≠ '\x27' ∧ c ≠ '#') :
    compile name known .bare
      = .ok { source := name, ast := .source name, references := [name] } := by
  have hreplaceable : Names.isReplaceable name.toList = true := by
    have hchars : name.toList ≠ [] := by
      rwa [ne_eq, String.toList_eq_nil_iff]
    simpa [Names.isReplaceable, hnumber] using hchars
  have hplain : ∀ c ∈ name.toList.head?, Names.Plain c := by
    intro c hc
    obtain ⟨hdouble, hsingle, hcomment⟩ := hstart c hc
    exact ⟨not_or.mpr ⟨hdouble, hsingle⟩, hcomment⟩
  have htext := Names.resolveNames_alone hknown hreplaceable hplain
  rw [compile_eq_ok_iff]
  refine ⟨?_, ?_, rfl, rfl⟩
  · rw [parsedText, htext]
    exact Expr.parse_lookupText name
  · intro m hm
    cases hm with
    | self => exact hknown

/-- The name has quotes, a backslash, a line end, an operator, a keyword, a call and letters beyond
ASCII. One known name is the start of it, and it is the start of another. -/
theorem compile_name_alone_hostile :
    let name := "a \"b\x27\\ \n - not é(1)"
    compile name ["a", name, name ++ " or a"] .bare
      = .ok { source := name, ast := .source name, references := [name] } := by
  intro name
  have hstart : ∀ c ∈ name.toList.head?, c ≠ '"' ∧ c ≠ '\x27' ∧ c ≠ '#' := by
    have hhead : name.toList.head? = some 'a' := by decide
    rw [hhead]
    rintro c ⟨rfl⟩
    decide
  exact compile_name_alone (.tail _ (.head _)) (by decide) (by decide) hstart

end CompiledExpr

end RowSignals
