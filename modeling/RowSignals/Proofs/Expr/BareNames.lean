import RowSignals.Proofs.Expr.Compiled
import RowSignals.Proofs.Expr.Explicit
import RowSignals.Proofs.Expr.Replacing

/-!
# Bare names

Known names are replaced in the text, before it is cut into tokens; the parser finds names among
the tokens. Both find the same ones, as long as the known names are words joined by points and
nothing stands next to the points of the text.

* `kinds_resolve_skipBlanks`, `kinds_resolve_token`, `dotted_text`: what resolving does to the
  gap before a token, to a token that stays, and to the tokens of a name.
* `kinds_resolve`: the tokens of a resolved text are the resolved tokens of the text.
* `Ordinary`: the names for which this holds.
* `CompiledExpr.compile_bare_names`: a text with known bare names compiles to its own tree with
  explicit look-ups.
-/

namespace RowSignals.Names

open RowSignals.Expr (Admissible Resolved EndsName Dotted)
open Expr.Lexer (IsQuote IsNumber isNameStart isNamePart isNamePart_of_isNameStart isBlank signs
  toNat_of_isNamePart toNat_of_isBlank toNat_of_white StartsAlike PointsTouch Follows kinds
  kinds_nil kinds_blank kinds_cons kinds_leftParen kinds_eq_cons kinds_eq_cons_point skipBlanks
  skipBlanksFrom_cons skipBlanks_of_kinds_nil scanToken_again)
open Number (Stops)

section
variable {names : List (List Char)}

/-! ## Blanks and comments -/

/-- A resolved text starts like the text itself, since a look-up is a name. -/
theorem resolve_startsAlike (hnames : ∀ name ∈ names, Dottable name) (before : Option Char)
    (text : List Char) : StartsAlike (resolve names before text) text := by
  cases text with
  | nil =>
    rw [resolve_nil]
    exact .inl rfl
  | cons c rest =>
    by_cases hquote : IsQuote c
    · rw [resolve_quote hquote]
      exact .inl rfl
    by_cases hcomment : c = '#'
    · subst hcomment
      rw [resolve_comment]
      exact .inl rfl
    rw [resolve_plain ⟨hquote, hcomment⟩]
    split
    · exact .inl rfl
    · split
      · rename_i name hname
        -- What is replaced is a name, and a name starts like one.
        have hstart : isNameStart c = true := by
          by_contra hstart
          rw [longestReference_of_start hnames (Bool.eq_false_iff.mpr hstart)] at hname
          cases hname
        obtain ⟨cs, hcs⟩ := lookupText_eq_cons (String.ofList name)
        rw [hcs]
        exact .inr ⟨rfl, hstart⟩
      · exact .inl rfl

/-- Blanks and comments are copied, and hold no tokens. -/
theorem kinds_resolve_skipBlanks (hnames : ∀ name ∈ names, Dottable name) {before : Option Char}
    {cs : List Char} (hfresh : Fresh before cs) : ∃ last, Fresh last (skipBlanks cs) ∧
      kinds (resolve names before cs) = kinds (resolve names last (skipBlanks cs)) := by
  obtain ⟨last, gap, hlast, -, hresolve, hgap⟩ :=
    resolve_skipBlanks (startApart_of_dottable hnames) hfresh
  refine ⟨last, hlast, ?_⟩
  rw [hresolve, hgap _ (resolve_startsAlike hnames last _)]

/-! ## All tokens -/

/-- One token that stays, and what follows it. -/
theorem kinds_resolve_token (hnames : ∀ name ∈ names, Dottable name) {t : TokenKind}
    {ts : List TokenKind} {cs : List Char} (hkinds : kinds cs = t :: ts) (ht : Admissible t)
    (hpoint : t ≠ .dot)
    (hword : ∀ w, t = .ofWord w → w ∈ Expr.keywords ∨
      w.toList ∉ names ∧ ∀ after, kinds after = ts → after.head? ≠ some '.')
    (htouch : PointsTouch cs) {before : Option Char} (hfresh : Fresh before cs) :
    ∃ last after, kinds after = ts ∧ PointsTouch after ∧ Fresh last after ∧
      kinds (resolve names before cs) = t :: kinds (resolve names last after) := by
  obtain ⟨c, rest, after, hskip, hscan, hafter⟩ := kinds_eq_cons hkinds
  obtain ⟨used, rfl, hshape, hagain⟩ := scanToken_again hscan ht
  obtain ⟨before, hfresh, hgap⟩ := kinds_resolve_skipBlanks hnames hfresh
  rw [hskip] at hfresh hgap
  have hwords : ∀ w, t = .ofWord w →
      w ∈ Expr.keywords ∨ w.toList ∉ names ∧ after.head? ≠ some '.' := by
    intro w hw
    rcases hword w hw with hkeyword | ⟨hunknown, hhead⟩
    · exact .inl hkeyword
    · exact .inr ⟨hunknown, hhead after hafter⟩
  obtain ⟨last, hlast, hresolve⟩ := resolve_token (startApart_of_dottable hnames) hshape hpoint
    (fun w hw hparts hstops => longestReference_of_word hnames hparts hstops
      (by simpa using hwords _ hw)) hfresh
  obtain ⟨hblank, hcomment⟩ := skipBlanksFrom_cons hskip
  refine ⟨last, after, hafter, (htouch.follows hskip hscan).touch, hlast, ?_⟩
  rw [hgap, ← List.cons_append, hresolve, List.cons_append, kinds_cons _ hblank hcomment,
    hagain _ (resolve_startsAlike hnames last after).ends]

/-! ## Names that end -/

/-- A character that is neither a blank nor in the range of printed signs starts no token. -/
theorem not_endsName_of_unexpected {c : Char} (cs : List Char) (hblank : isBlank c = false)
    (hrange : c.toNat < 32 ∨ 128 ≤ c.toNat) : ¬ EndsName (kinds (c :: cs)) := by
  have hprinted : ('#' :: '.' :: '"' :: '\x27' :: signs).all
      (fun d => 32 < d.toNat && d.toNat < 128) = true := by decide
  have hnone : c ∉ '#' :: '.' :: '"' :: '\x27' :: signs := by
    intro hmem
    have hbounds := List.all_eq_true.mp hprinted c hmem
    simp only [Bool.and_eq_true, decide_eq_true_eq] at hbounds
    omega
  simp only [List.mem_cons, not_or] at hnone
  obtain ⟨hcomment, hpoint, hdouble, hsingle, hsign⟩ := hnone
  have hpart : isNamePart c = false := by
    by_contra hpart
    have hbounds := toNat_of_isNamePart (Bool.not_eq_false _ ▸ hpart)
    omega
  have hquote : ¬ IsQuote c := not_or.mpr ⟨hdouble, hsingle⟩
  have hscan := Expr.Lexer.scanToken_unexpected cs hpart hsign hpoint hquote
  rw [kinds_cons cs hblank hcomment, hscan]
  exact id

theorem not_endsName_of_isNumber {t : TokenKind} {ts : List TokenKind} (h : IsNumber t) :
    ¬ EndsName (t :: ts) := by
  cases t <;> first | exact id | exact h.elim

theorem not_endsName_point (cs : List Char) : ¬ EndsName (kinds ('.' :: cs)) := by
  have hkinds := kinds_cons cs (show isBlank '.' = false from rfl) (by decide)
  rw [hkinds]
  rcases kinds_eq_cons_point hkinds with hdot | hnumber
  · rw [hdot]
    exact id
  · exact not_endsName_of_isNumber hnumber

/-- Before a token that ends a name, no character continues the name. -/
theorem stops_of_endsName {cs : List Char} (hends : EndsName (kinds cs))
    (hstops : Stops isNamePart cs) : Stops continuesName cs := by
  intro c hc
  by_contra hcontinues
  obtain ⟨rest, rfl⟩ := List.head?_eq_some_iff.mp hc
  simp only [continuesName, Bool.not_eq_false, Bool.or_eq_true, beq_iff_eq] at hcontinues
  have hpart : isNamePart c = false := hstops c rfl
  rcases hcontinues with (halpha | rfl) | rfl
  · by_cases hascii : c.val < 128
    · have halnum : c.isAlphanum = true := by rwa [Text.isAlphanumeric, if_pos hascii] at halpha
      rw [isNamePart, halnum] at hpart
      cases hpart
    · have hrange : 128 ≤ c.toNat := Nat.not_lt.mp hascii
      have hblank : isBlank c = false := by
        by_contra hblank
        have hle := toNat_of_isBlank (Bool.not_eq_false _ ▸ hblank)
        omega
      exact not_endsName_of_unexpected rest hblank (.inr hrange) hends
  · cases hpart
  · exact not_endsName_point rest hends

/-- Where a name may end no parenthesis follows, not even after blanks. -/
theorem trimStart_of_endsName {cs : List Char} (hends : EndsName (kinds cs)) :
    (Text.trimStart cs).head? ≠ some '(' := by
  induction cs with
  | nil => nofun
  | cons c cs ih =>
    by_cases hwhite : Text.isBlank c = true
    · have htrim : Text.trimStart (c :: cs) = Text.trimStart cs :=
        List.dropWhile_cons_of_pos hwhite
      rw [htrim]
      by_cases hblank : isBlank c = true
      · rw [kinds_blank cs hblank] at hends
        exact ih hends
      · have hblank := Bool.eq_false_iff.mpr hblank
        exact absurd hends (not_endsName_of_unexpected cs hblank (toNat_of_white hwhite hblank))
    · have htrim : Text.trimStart (c :: cs) = c :: cs := List.dropWhile_cons_of_neg hwhite
      rw [htrim]
      rintro ⟨rfl⟩
      rw [kinds_leftParen] at hends
      exact hends

/-- The text of the parts of a dotted name. -/
theorem dotted_text {w name : String} {ts rest : List TokenKind} (h : Dotted w ts name rest)
    {t : TokenKind} {cs : List Char} (hkinds : kinds cs = ts) (hfollows : Follows t cs)
    (hstops : Stops isNamePart cs) : ∃ used last, cs = used ++ last ∧
      name.toList = w.toList ++ used ∧ kinds last = rest ∧ PointsTouch last ∧
      Stops isNamePart last := by
  induction h generalizing t cs with
  | done => exact ⟨[], cs, rfl, (List.append_nil _).symm, hkinds, hfollows.touch, hstops⟩
  | @part w part name ts rest _ ih =>
    obtain ⟨c, others, after, hskip, hscan, hafter⟩ := kinds_eq_cons hkinds
    obtain ⟨used, rfl, hshape, -⟩ := scanToken_again hscan trivial
    obtain ⟨rfl, rfl⟩ := hshape.dot
    -- nothing stands before the point, and nothing after it
    have hcs : cs = '.' :: after := by
      rw [← hfollows.first _ _ hskip (.inr (congrArg Prod.fst hscan)), hskip]
      rfl
    have hpoint := hfollows.touch.follows hskip hscan
    obtain ⟨d, others, later, hskip, hscan, hlater⟩ := kinds_eq_cons hafter
    obtain ⟨used, rfl, hshape, -⟩ := scanToken_again hscan trivial
    obtain ⟨-, -, hends, hpart⟩ := hshape.identifier
    have hafter : after = d :: (used ++ later) := by
      rw [← hpoint.first _ _ hskip (.inl rfl), hskip]
    obtain ⟨more, last, rfl, hname, hlast, htouch, hstops⟩ :=
      ih hlater (hpoint.touch.follows hskip hscan) hends
    refine ⟨'.' :: d :: (used ++ more), last, ?_, ?_, hlast, htouch, hstops⟩
    · rw [hcs, hafter]
      simp
    · rw [hname, ← hpart]
      simp

/-- The tokens of one known name, which gives way to a look-up, and what follows them. -/
theorem kinds_resolve_reference (hnames : ∀ name ∈ names, Dottable name) {w name : String}
    {ts rest : List TokenKind} {cs : List Char} (hkinds : kinds cs = .identifier w :: ts)
    (hdotted : Dotted w ts name rest) (hmem : name.toList ∈ names) (hends : EndsName rest)
    (htouch : PointsTouch cs) {before : Option Char} (hfresh : Fresh before cs) :
    ∃ after, kinds after = rest ∧ PointsTouch after ∧ kinds (resolve names before cs)
      = .identifier Expr.sourcesName :: .leftBracket :: .string name :: .rightBracket
        :: kinds (resolve names (some ']') after) := by
  obtain ⟨c, others, after, hskip, hscan, hafter⟩ := kinds_eq_cons hkinds
  obtain ⟨used, rfl, hshape, -⟩ := scanToken_again hscan trivial
  obtain ⟨hstart, -, hstops, rfl⟩ := hshape.identifier
  obtain ⟨more, last, rfl, hname, hlast, hnext, hstops⟩ :=
    dotted_text hdotted hafter (htouch.follows hskip hscan) hstops
  obtain ⟨before, hfresh, hgap⟩ := kinds_resolve_skipBlanks hnames hfresh
  rw [hskip] at hfresh hgap
  have hbefore : ¬ before.any continuesName = true := by
    intro hbefore
    cases (hfresh hbefore c rfl).symm.trans hstart
  have htext : c :: (used ++ (more ++ last)) = name.toList ++ last := by
    rw [hname, String.toList_ofList, List.cons_append, List.cons_append, List.append_assoc]
  -- the name ends here for the text too, so that it is the one that is found
  rw [← hlast] at hends
  have hend : Ends last := ⟨stops_of_endsName hends hstops, trimStart_of_endsName hends⟩
  have hfound : longestReference names (name.toList ++ last) = some name.toList :=
    longestReference_eq_some hnames hmem hend
  have hplain := Plain.of_isNamePart (isNamePart_of_isNameStart hstart)
  refine ⟨last, hlast, hnext, ?_⟩
  rw [hgap, resolve_plain hplain, if_neg hbefore, htext, hfound]
  dsimp only
  rw [List.drop_left, String.ofList_toList, Expr.kinds_lookup]

/-- Resolving a text resolves its tokens. -/
theorem kinds_resolve {known : List String} (hknown : ∀ name ∈ known, Dottable name.toList)
    {ts us : List TokenKind} (h : Resolved known ts us) {cs : List Char} (hkinds : kinds cs = ts)
    (htouch : PointsTouch cs) {before : Option Char} (hfresh : Fresh before cs) :
    kinds (resolve (known.map String.toList) before cs) = us := by
  have hnames : ∀ name ∈ known.map String.toList, Dottable name := by
    intro name hname
    obtain ⟨name, hmem, rfl⟩ := List.mem_map.mp hname
    exact hknown name hmem
  induction h generalizing cs before with
  | nil =>
    obtain ⟨last, -, hlast⟩ := kinds_resolve_skipBlanks hnames hfresh
    have hskip := skipBlanks_of_kinds_nil hkinds
    rw [hlast, hskip, resolve_nil, kinds_nil]
  | @kept t ts us ht _ ih =>
    have hword : ∀ w, t = .ofWord w → w ∈ Expr.keywords := by
      rintro w rfl
      by_contra hno
      rw [Expr.ofWord_identifier hno] at ht
      exact ht
    obtain ⟨last, after, hafter, htouch, hlast, hresolve⟩ :=
      kinds_resolve_token hnames hkinds ht.admissible ht.ne_dot (fun w hw => .inl (hword w hw))
        htouch hfresh
    rw [hresolve, ih hafter htouch hlast]
  | @word w t ts us hunknown ht _ ih =>
    have hwords : ∀ v, TokenKind.identifier w = .ofWord v → v ∈ Expr.keywords ∨
        v.toList ∉ known.map String.toList ∧
          ∀ after, kinds after = t :: ts → after.head? ≠ some '.' := by
      intro v hv
      obtain rfl := Expr.Lexer.eq_of_ofWord_eq_identifier hv.symm
      refine .inr ⟨?_, ?_⟩
      · rintro hmem
        obtain ⟨name, hname, heq⟩ := List.mem_map.mp hmem
        exact hunknown (String.toList_injective heq ▸ hname)
      · intro after hafter hpoint
        obtain ⟨more, rfl⟩ := List.head?_eq_some_iff.mp hpoint
        -- a bracket is neither a point nor a number
        rcases kinds_eq_cons_point hafter with rfl | hnumber
        · rcases ht with h | h <;> cases h
        · rcases ht with rfl | rfl <;> exact hnumber
    obtain ⟨last, after, hafter, htouch, hlast, hresolve⟩ :=
      kinds_resolve_token hnames hkinds trivial nofun hwords htouch hfresh
    rw [hresolve, ih hafter htouch hlast]
  | reference hdotted hmem hends _ ih =>
    obtain ⟨after, hafter, htouch, hresolve⟩ := kinds_resolve_reference hnames hkinds hdotted
      (List.mem_map_of_mem hmem) hends htouch hfresh
    rw [hresolve, ih hafter htouch (fresh_of_not_continues rfl)]

/-! ## Ordinary names -/

/-- A segment of a name: the text of a word that is no keyword. -/
structure Segment (s : String) : Prop where
  start : ∃ c cs, s.toList = c :: cs ∧ isNameStart c = true
  chars : ∀ c ∈ s.toList, isNamePart c = true
  noKeyword : s ∉ Expr.keywords

/-- A name of segments joined by points, that has no meaning of its own. -/
structure Ordinary (name : String) : Prop where
  segments : ∃ parts, parts ≠ [] ∧ (∀ p ∈ parts, Segment p) ∧ name = ".".intercalate parts
  notSources : name ≠ Expr.sourcesName
  notBuiltin : Builtin.ofName? name = none

/-- After its first segment a joined name is at its end or goes on with a point. -/
theorem first_segment {p : String} {parts : List String} (h : ∀ q ∈ p :: parts, Segment q) :
    ∃ more, (".".intercalate (p :: parts)).toList = p.toList ++ more ∧ Stops isNamePart more ∧
      ∀ c ∈ more, inName c = true := by
  induction parts generalizing p with
  | nil =>
    refine ⟨[], ?_, nofun, nofun⟩
    rw [String.intercalate_singleton, List.append_nil]
  | cons q parts ih =>
    have hparts : ∀ r ∈ q :: parts, Segment r := fun r hr => h r (List.mem_cons_of_mem p hr)
    obtain ⟨more, hmore, -, hchars⟩ := ih hparts
    refine ⟨'.' :: (q.toList ++ more), ?_, .cons _ rfl, ?_⟩
    · rw [String.intercalate_cons_cons, String.toList_append, String.toList_append, hmore]
      simp
    · intro c hc
      rcases List.mem_cons.mp hc with rfl | hc
      · rfl
      rcases List.mem_append.mp hc with hc | hc
      · rw [inName, (hparts q List.mem_cons_self).chars c hc]
        rfl
      · exact hchars c hc

/-- An ordinary name is words joined by points, and no keyword comes first. -/
theorem Ordinary.dottable {name : String} (h : Ordinary name) : Dottable name.toList := by
  obtain ⟨parts, hne, hparts, rfl⟩ := h.segments
  cases parts with
  | nil => exact absurd rfl hne
  | cons p parts =>
    obtain ⟨hstart, hchars, hkeyword⟩ := hparts p List.mem_cons_self
    obtain ⟨more, hmore, hstops, hrest⟩ := first_segment hparts
    rw [hmore]
    constructor
    · obtain ⟨c, cs, hp, hc⟩ := hstart
      refine ⟨c, cs ++ more, ?_, hc⟩
      rw [hp, List.cons_append]
    · intro c hc
      rcases List.mem_append.mp hc with hc | hc
      · rw [inName, hchars c hc]
        rfl
      · exact hrest c hc
    · rwa [Number.takeWhile_append_stop hchars hstops, String.ofList_toList]

end

end RowSignals.Names

/-! ## Compiled texts -/

namespace RowSignals.CompiledExpr

open Names (Ordinary Segment)
open RowSignals.Expr (Unreserved)
open Expr.Lexer (kinds Touches)

/-- Ordinary names have no meaning of their own in the language. -/
theorem unreserved_of_ordinary {known : List String} (h : ∀ name ∈ known, Ordinary name) :
    Unreserved known where
  notSources := fun hmem => (h _ hmem).notSources rfl
  notBuiltin := fun f hmem => by
    cases (h _ hmem).notBuiltin.symm.trans (Expr.ofName?_eq_some_iff.mpr rfl)

/-- A text with bare names, each of them known, compiles to the tree that the text itself has,
with explicit look-ups: the known names are found in the text where the parser finds names. -/
theorem compile_bare_names {source : String} {known : List String} {e : Expr}
    (hknown : ∀ name ∈ known, Ordinary name)
    (htouch : (Expr.Lexer.tokenize source).tokens.IsChain Touches)
    (hparse : Expr.parse source = .ok e) (hreads : ∀ n ∈ e.references, n ∈ known) :
    ∃ compiled, compile source known .bare = .ok compiled ∧ compiled.ast = e.explicit ∧
      ∀ sources, compiled.eval sources = e.eval sources := by
  obtain ⟨n, hn, hderives⟩ := Expr.parseTokens_eq_ok_iff.mp hparse
  rw [Expr.Lexer.kinds_tokenize] at hderives
  obtain ⟨us, hresolved, hexplicit⟩ :=
    hderives.explicit (unreserved_of_ordinary hknown) hreads trivial .nil
  -- the tokens of the resolved text are the resolved tokens
  have hkinds : kinds (Names.resolveNames known source).toList = us := by
    rw [Names.resolveNames, String.toList_ofList]
    exact Names.kinds_resolve (fun name hname => (hknown name hname).dottable) hresolved rfl
      ⟨_, _, Nat.le_refl _, htouch⟩ (Names.fresh_of_not_continues rfl)
  have hparse : Expr.parse (Names.resolveNames known source) = .ok e.explicit := by
    refine Expr.parseTokens_eq_ok_iff.mpr ⟨n, hn, ?_⟩
    rwa [Expr.Lexer.kinds_tokenize, hkinds]
  have hcheck : Expr.checkReferences known .bare e.explicit = .ok () := by
    rw [Expr.checkReferences_eq_ok_iff]
    intro m hpart
    have hreads (n : String) (hn : Expr.Reads e.explicit n) : n ∈ known := by
      rw [← Expr.mem_references_iff, Expr.references_explicit] at hn
      exact hreads n hn
    cases m with
    | name n => exact ⟨rfl, hreads n (.inl hpart)⟩
    | source n => exact hreads n (.inr hpart)
    | _ => trivial
  refine ⟨⟨source, e.explicit, firstOccurrences e.explicit.references⟩, ?_, rfl, ?_⟩
  · simp only [compile, hparse, hcheck]
  · intro sources
    exact Expr.eval_explicit sources e

/-- One known name is the start of the other, and a comment holds it too. -/
theorem compile_bare_names_overlapping :
    let source := "io.rx.total - io.rx # io.rx"
    ∃ compiled, compile source ["io.rx", "io.rx.total"] .bare = .ok compiled ∧
      compiled.ast = .binary .sub (.source "io.rx.total") (.source "io.rx") ∧
      ∀ sources, compiled.eval sources
        = Expr.eval sources (.binary .sub (.name "io.rx.total") (.name "io.rx")) := by
  intro source
  have hordinary : ∀ name ∈ ["io.rx", "io.rx.total"], Ordinary name := by
    intro name hname
    have hio : Segment "io" := ⟨⟨'i', ['o'], rfl, rfl⟩, List.all_eq_true.mp rfl, by decide⟩
    have hrx : Segment "rx" := ⟨⟨'r', ['x'], rfl, rfl⟩, List.all_eq_true.mp rfl, by decide⟩
    have htotal : Segment "total" :=
      ⟨⟨'t', ['o', 't', 'a', 'l'], rfl, rfl⟩, List.all_eq_true.mp rfl, by decide⟩
    rcases List.mem_pair.mp hname with rfl | rfl
    · exact ⟨⟨["io", "rx"], by decide, by simp [hio, hrx], rfl⟩, by decide, by decide⟩
    · exact ⟨⟨["io", "rx", "total"], by decide, by simp [hio, hrx, htotal], rfl⟩, by decide,
        by decide⟩
  have hparse : Expr.parse source
      = .ok (.binary .sub (.name "io.rx.total") (.name "io.rx")) := by
    cbv
  have htouch : (Expr.Lexer.tokenize source).tokens.IsChain Touches := by
    decide +kernel
  refine compile_bare_names hordinary htouch hparse ?_
  intro n hn
  rcases List.mem_pair.mp hn with rfl | rfl
  · exact .tail _ (.head _)
  · exact .head _

end RowSignals.CompiledExpr
