import RowSignals.Proofs.Expr.Compiled
import RowSignals.Proofs.Expr.Parsing
import RowSignals.Proofs.Expr.Places
import RowSignals.Proofs.Expr.Replacing

/-!
# Where errors are reported

A syntax error is reported at a token of the text that was parsed. With bare names that is the
text with explicit look-ups. These are longer than the names, so that the columns are those of
another text than the one that was written. Lines stay the same.

* `parseTokens_place`: an error is reported at a token or at the end.
* `Names.Replaced`: a text with look-ups in place of some names; `Replaced.tokenLines_eq`: it has
  tokens on the same lines.
* `checkReferences_failsOnNames`: the check of names reports no syntax error.
* `CompiledExpr.compile_invalid_place`: what is known of the place of a syntax error.
-/

namespace RowSignals

namespace Expr

/-! ## Errors of the parser -/

theorem mem_places_of_mem {ts : Tokens} {t : Token} (h : t ∈ ts.tokens) :
    (t.span.start.line, t.span.start.column) ∈ ts.places :=
  List.mem_map_of_mem (List.mem_append_left _ (List.mem_map_of_mem h))

/-- The place where the parser gave up is one of a token or the end. -/
theorem placeOf_mem_places (ts : Tokens) (left : Nat) :
    ((ts.placeOf left).line, (ts.placeOf left).column) ∈ ts.places := by
  unfold Tokens.placeOf
  split
  · rename_i t ht
    exact mem_places_of_mem (List.mem_of_getElem? ht)
  · exact List.mem_map_of_mem (List.mem_append_right _ List.mem_cons_self)

/-- The first invalid token is reported at its place. -/
theorem exists_of_firstInvalid? {tokens : List Token} {error : LexError} {place : Position}
    (h : firstInvalid? tokens = some (error, place)) : ∃ t ∈ tokens, t.span.start = place := by
  fun_induction firstInvalid? tokens with
  | case1 => cases h
  | case2 error span rest =>
    cases h
    exact ⟨_, List.mem_cons_self, rfl⟩
  | case3 t rest _ ih =>
    obtain ⟨u, hu, hplace⟩ := ih h
    exact ⟨u, List.mem_cons_of_mem t hu, hplace⟩

/-- Whatever the parser reports, it reports at such a place. -/
theorem parseTokens_place {ts : Tokens} {error : SyntaxError} (h : parseTokens ts = .error error) :
    (error.line, error.column) ∈ ts.places := by
  unfold parseTokens at h
  split at h
  · rename_i hinvalid
    obtain ⟨t, ht, rfl⟩ := exists_of_firstInvalid? hinvalid
    cases h
    exact mem_places_of_mem ht
  · split at h
    · cases h
    · cases h
      exact placeOf_mem_places _ _

end Expr

/-! ## Texts with look-ups -/

namespace Names

open RowSignals.Expr (tokenLines tokenLines_append tokenLines_first OnLine escapeChar)
open Expr.Lexer (IsQuote isBlank)
open Number (Stops)

/-- `Replaced names text result`: look-ups stand in `result` where names stand in `text`. -/
inductive Replaced (names : List (List Char)) : List Char → List Char → Prop
  | nil : Replaced names [] []
  | copy (used : List Char) {text result : List Char} : Replaced names text result →
    Replaced names (used ++ text) (used ++ result)
  | lookup {name text result : List Char} : name ∈ names → isReplaceable name = true →
    name.head? ≠ some '#' → Replaced names text result →
    Replaced names (name ++ text) ((Expr.lookupText (String.ofList name)).toList ++ result)

/-- Resolving replaces names that may be replaced, and nothing else. -/
theorem resolve_replaced (names : List (List Char)) (before : Option Char) (text : List Char) :
    Replaced names text (resolve names before text) := by
  induction hlength : text.length using Nat.strongRecOn generalizing before text with
  | ind length ih =>
    cases text with
    | nil =>
      rw [resolve_nil]
      exact .nil
    | cons c rest =>
      have hless {after : List Char} (h : after.length ≤ rest.length) : after.length < length := by
        rw [← hlength, List.length_cons]
        omega
      have hcopy : Replaced names (c :: rest) (c :: resolve names (some c) rest) :=
        .copy [c] (ih _ (hless (Nat.le_refl _)) (some c) rest rfl)
      by_cases hquote : IsQuote c
      · -- a string is copied
        have hrest := ih _ (hless (literalEnd_length_le c rest))
          ((literalEnd c rest).1.getLast?.or (some c)) (literalEnd c rest).2 rfl
        have hliteral := Replaced.copy (c :: (literalEnd c rest).1) hrest
        rw [List.cons_append, literalEnd_append] at hliteral
        rw [resolve_quote hquote]
        exact hliteral
      by_cases hcomment : c = '#'
      · -- so is a comment
        subst hcomment
        have hrest := ih _ (hless (List.dropWhile_suffix (· != '\n')).length_le)
          ((rest.takeWhile (· != '\n')).getLast?.or (some '#')) (rest.dropWhile (· != '\n')) rfl
        have hline := Replaced.copy ('#' :: rest.takeWhile (· != '\n')) hrest
        rw [List.cons_append, List.takeWhile_append_dropWhile] at hline
        rw [resolve_comment]
        exact hline
      rw [resolve_plain ⟨hquote, hcomment⟩]
      split
      · exact hcopy
      · split
        · -- the longest name gives way to its look-up
          rename_i name hname
          obtain ⟨hmem, hreplaceable, after, hsplit, -⟩ := longestReference_split hname
          have hrest := ih _ (hless (length_drop_reference_le hname)) (some ']')
            ((c :: rest).drop name.length) rfl
          have hhead : name.head? ≠ some '#' := by
            cases name with
            | nil => nofun
            | cons d name =>
              obtain ⟨rfl, -⟩ := List.cons.inj hsplit
              exact fun h => hcomment (Option.some.inj h)
          have hlookup := Replaced.lookup hmem hreplaceable hhead hrest
          rw [hsplit, List.drop_left] at hlookup ⊢
          exact hlookup
        · exact hcopy

/-- A text in which no name stands that may be replaced stays as it is. -/
theorem Replaced.eq_of_absent {names : List (List Char)} {text result : List Char}
    (h : Replaced names text result)
    (habsent : ∀ name ∈ names, isReplaceable name = true → ¬ name <:+: text) : result = text := by
  induction h with
  | nil => rfl
  | copy used _ ih =>
    rw [ih fun name hmem hreplaceable hstands =>
      habsent name hmem hreplaceable (hstands.trans (List.suffix_append used _).isInfix)]
  | lookup hmem hreplaceable =>
    exact absurd (List.prefix_append _ _).isInfix (habsent _ hmem hreplaceable)

/-- A name that neither starts with a blank nor holds a line end. -/
def OnOneLine (name : List Char) : Prop :=
  (∀ c ∈ name, c ≠ '\n') ∧ Stops isBlank name

theorem escapeChar_oneLine (c : Char) : ∀ d ∈ escapeChar c, d ≠ '\n' := by
  unfold escapeChar
  split
  case h_6 _ _ hline _ _ => exact List.forall_mem_singleton.mpr hline
  all_goals exact List.forall_mem_cons.mpr ⟨by decide, List.forall_mem_singleton.mpr (by decide)⟩

/-- A look-up is on one line, since the line ends of a name are escaped in it. -/
theorem lookupText_oneLine (key : String) : ∀ c ∈ (Expr.lookupText key).toList, c ≠ '\n' := by
  have hname : ∀ c ∈ Expr.sourcesName.toList, c ≠ '\n' := by
    intro c hc
    exact Expr.ne_newline_of_isNamePart (List.all_eq_true.mp rfl c hc)
  have hkey : ∀ c ∈ key.toList.flatMap escapeChar, c ≠ '\n' := by
    intro c hc
    obtain ⟨d, -, hc⟩ := List.mem_flatMap.mp hc
    exact escapeChar_oneLine d c hc
  have htext : (Expr.lookupText key).toList = Expr.sourcesName.toList
      ++ '[' :: '"' :: (key.toList.flatMap escapeChar ++ ['"', ']']) := by
    simp [Expr.lookupText, Expr.quoteText]
  rw [htext]
  simp only [List.forall_mem_append, List.forall_mem_cons]
  exact ⟨hname, by decide, by decide, hkey, by decide, by decide, List.forall_mem_nil _⟩

/-- Names on one line give way to look-ups on that line. -/
theorem Replaced.tokenLines_eq {names : List (List Char)} {text result : List Char}
    (h : Replaced names text result) (hnames : ∀ name ∈ names, OnOneLine name) :
    ∀ line seen, tokenLines line seen result = tokenLines line seen text := by
  induction h with
  | nil => exact fun _ _ => rfl
  | copy used _ ih => exact tokenLines_append ih used
  | @lookup name text result hmem hreplaceable hhead _ ih =>
    intro line seen
    obtain ⟨honeLine, hblank⟩ := hnames name hmem
    obtain ⟨cs, hcs⟩ := lookupText_eq_cons (String.ofList name)
    have hlookup := lookupText_oneLine (String.ofList name)
    rw [hcs] at hlookup ⊢
    -- a token starts where the name starts, and one where the look-up does
    cases name with
    | nil => cases hreplaceable
    | cons c name =>
      have hcomment : c ≠ '#' := fun h => hhead (congrArg some h)
      have hname : OnLine (name ++ text) text := ⟨name, rfl, (List.forall_mem_cons.mp honeLine).2⟩
      have hrest : OnLine (cs ++ result) result := ⟨cs, rfl, (List.forall_mem_cons.mp hlookup).2⟩
      rw [List.cons_append, List.cons_append, tokenLines_first rfl (by decide) hrest,
        tokenLines_first (hblank c rfl) hcomment hname, ih]

end Names

/-! ## Errors of compiled texts -/

namespace Expr

variable {known : List String} {resolution : Resolution}

/-- A check that can fail, but only on a name. -/
def FailsOnNames (checked : Except ExprError Unit) : Prop :=
  ∀ error, checked = .error error → error.isInvalid = false

theorem failsOnNames_ok : FailsOnNames (.ok ()) := by
  intro error h
  cases h

/-- Two checks in sequence fail only on names if both do. -/
theorem FailsOnNames.bind {first second : Except ExprError Unit} (hfirst : FailsOnNames first)
    (hsecond : FailsOnNames second) : FailsOnNames (first >>= fun _ => second) := by
  intro error h
  rcases bind_eq_error.mp h with h | ⟨_, -, h⟩
  · exact hfirst error h
  · exact hsecond error h

theorem checkName_failsOnNames (bare : Bool) (n : String) :
    FailsOnNames (checkName known resolution bare n) := by
  intro error h
  unfold checkName at h
  split at h
  · cases h
    rfl
  · split at h
    · cases h
    · cases h
      rfl

/-- The check of links fails only on names if that of their operands does. -/
theorem checkLinks_failsOnNames {links : List (CompareOp × Expr)}
    (h : ∀ link ∈ links, FailsOnNames (checkReferences known resolution link.2)) :
    FailsOnNames (checkLinks known resolution links) := by
  induction links with
  | nil => exact failsOnNames_ok
  | cons link links ih =>
    have hlinks := ih fun link hlink => h link (List.mem_cons_of_mem _ hlink)
    exact (h link List.mem_cons_self).bind hlinks

/-- The check of arguments fails only on names if that of each one does. -/
theorem checkArgs_failsOnNames {args : List Expr}
    (h : ∀ arg ∈ args, FailsOnNames (checkReferences known resolution arg)) :
    FailsOnNames (checkArgs known resolution args) := by
  induction args with
  | nil => exact failsOnNames_ok
  | cons arg args ih =>
    have hargs := ih fun arg harg => h arg (List.mem_cons_of_mem _ harg)
    exact (h arg List.mem_cons_self).bind hargs

/-- What was read is an expression, so that the check of its names reports no syntax error. -/
theorem checkReferences_failsOnNames (e : Expr) :
    FailsOnNames (checkReferences known resolution e) := by
  induction e using rec_parts with
  | literal value => exact failsOnNames_ok
  | name n => exact checkName_failsOnNames true n
  | source key => exact checkName_failsOnNames false key
  | unary op e ih => exact ih
  | binary op l r ihl ihr => exact ihl.bind ihr
  | chained first links ihf ihl => exact ihf.bind (checkLinks_failsOnNames ihl)
  | boolean op l r ihl ihr => exact ihl.bind ihr
  | conditional body test orelse ihb iht iho => exact ihb.bind (iht.bind iho)
  | call f args ih => exact checkArgs_failsOnNames ih

end Expr

namespace CompiledExpr

open Expr.Lexer (tokenize)

section
variable {source : String} {known : List String} {resolution : Resolution}
  {error : Expr.SyntaxError}

/-- An error of the syntax is the parser's, of the text with its look-ups. -/
theorem parse_of_compile_invalid (h : compile source known resolution = .error (.invalid error)) :
    Expr.parse (parsedText source known resolution) = .error error := by
  unfold compile at h
  dsimp only at h
  split at h
  · rename_i hparse
    cases h
    exact hparse
  · split at h
    · rename_i hcheck
      cases h
      cases Expr.checkReferences_failsOnNames _ _ hcheck
    · cases h

/-- What is parsed has look-ups in the text that was written. -/
theorem parsedText_replaced (source : String) (known : List String) (resolution : Resolution) :
    Names.Replaced (known.map String.toList) source.toList
      (parsedText source known resolution).toList := by
  cases resolution with
  | explicit =>
    rw [parsedText, ← List.append_nil source.toList]
    exact .copy source.toList .nil
  | bare =>
    rw [parsedText, Names.resolveNames, String.toList_ofList]
    exact Names.resolve_replaced _ _ _

/-- A syntax error of a text with explicit look-ups is reported at a token of the text, or at its
end. With bare names it is reported at a token of the text with look-ups in their place. That is
the text itself if no known name stands in it, and otherwise has other columns, but, if the names
are on one line each, the same lines. -/
theorem compile_invalid_place
    (h : compile source known resolution = .error (.invalid error)) :
    (resolution = .explicit → (error.line, error.column) ∈ (tokenize source).places) ∧
    (resolution = .bare →
      (error.line, error.column) ∈ (tokenize (Names.resolveNames known source)).places) ∧
    ((∀ name ∈ known, Names.isReplaceable name.toList = true →
        ¬ name.toList <:+: source.toList) →
      (error.line, error.column) ∈ (tokenize source).places) ∧
    ((∀ name ∈ known, Names.OnOneLine name.toList) → error.line ∈ (tokenize source).lines) := by
  have hplace := Expr.parseTokens_place (parse_of_compile_invalid h)
  have hreplaced := parsedText_replaced source known resolution
  refine ⟨?_, ?_, ?_, ?_⟩
  · rintro rfl
    exact hplace
  · rintro rfl
    exact hplace
  · intro habsent
    have hsame := hreplaced.eq_of_absent (List.forall_mem_map.mpr habsent)
    rwa [String.toList_injective hsame] at hplace
  · intro honeLine
    have hlines := hreplaced.tokenLines_eq (List.forall_mem_map.mpr honeLine)
    have hline : error.line ∈ (tokenize (parsedText source known resolution)).lines :=
      List.mem_map_of_mem hplace
    rwa [Expr.mem_lines_tokenize, hlines, ← Expr.mem_lines_tokenize] at hline

end

/-- A name twice in a row on the second line, of which the text that is parsed has more columns. -/
theorem compile_invalid_place_second_line :
    let problem := Expr.Problem.trailing (.identifier "SOURCES")
    compile "1+\na a" ["a"] .bare = .error (.invalid ⟨problem, 2, 14⟩) ∧
      (∀ name ∈ ["a"], Names.OnOneLine name.toList) ∧ 2 ∈ (tokenize "1+\na a").lines := by
  intro problem
  have hcompile : compile "1+\na a" ["a"] .bare = .error (.invalid ⟨problem, 2, 14⟩) := by cbv
  have honeLine : ∀ name ∈ ["a"], Names.OnOneLine name.toList := by
    intro name hname
    obtain rfl := List.mem_singleton.mp hname
    exact ⟨List.forall_mem_singleton.mpr (by decide), .cons _ rfl⟩
  exact ⟨hcompile, honeLine, (compile_invalid_place hcompile).2.2.2 honeLine⟩

/-- The second name is unexpected. It stands in column 3, and its look-up in column 14 of the text
that is parsed. -/
theorem compile_place_of_look_up :
    let problem := Expr.Problem.trailing (.identifier "SOURCES")
    compile "a a" ["a"] .bare = .error (.invalid ⟨problem, 1, 14⟩) ∧
      (tokenize "a a").places = [(1, 1), (1, 3), (1, 4)] := by
  intro problem
  constructor
  · cbv
  · cbv

end CompiledExpr

end RowSignals
