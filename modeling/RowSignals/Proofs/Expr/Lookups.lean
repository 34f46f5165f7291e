import RowSignals.Proofs.Expr.Compiled
import RowSignals.Proofs.Expr.Standing

/-!
# Explicit look-ups in both modes

A text in which every source is looked up explicitly has names of its own only for the look-up
and for functions; all its other words are operators and constants. Where bare names are allowed,
such a text still goes through resolving, which looks for known names in the text and not among
its tokens. It is left alone if no known name stands in it, as is the case for every name that
starts with neither a sign nor a word of the language. A name that does may stand there, and then
breaks the text.

* `LookedUp`: the tokens of such a text; `Derives.lookedUp`: there are no others.
* `Names.Foreign`: names that cannot stand among these tokens; `Names.resolve_lookedUp`.
* `CompiledExpr.compile_explicit_bare`: which texts with explicit look-ups compile alike with bare
  names.
-/

namespace RowSignals

namespace Expr

/-! ## Tokens of explicit look-ups -/

/-- The words that are an operator, a constant, a function, or the name of the look-up. -/
def languageWords : List String :=
  ["True", "False", "None", "and", "or", "not", "if", "else", sourcesName]
    ++ Builtin.all.map Builtin.name

/-- The names of functions are words of the language. -/
theorem Builtin.name_mem_languageWords (f : Builtin) : f.name ∈ languageWords := by
  cases f <;> decide

/-- Tokens of expressions in which no name stands bare: the only names are words of the
language. -/
def LookedUp (t : TokenKind) : Prop :=
  Kept t ∨ ∃ word ∈ languageWords, t = .identifier word

/-- The tokens of explicit look-ups may stand in an expression. -/
theorem LookedUp.admissible {t : TokenKind} (h : LookedUp t) : Admissible t := by
  rcases h with h | ⟨word, -, rfl⟩
  · exact h.admissible
  · trivial

theorem LookedUp.ne_dot {t : TokenKind} (h : LookedUp t) : t ≠ .dot := by
  rcases h with h | ⟨word, -, rfl⟩
  · exact h.ne_dot
  · intro h
    cases h

/-- A word among these tokens is a word of the language. -/
theorem LookedUp.word {w : String} (h : LookedUp (.ofWord w)) : w ∈ languageWords := by
  rcases h with h | ⟨word, hword, heq⟩
  · unfold TokenKind.ofWord at h
    split at h
    case h_9 =>
      split at h
      · exact h.elim
      · exact h.elim
    all_goals decide
  · rwa [Lexer.eq_of_ofWord_eq_identifier heq]

/-- No name stands bare in the expression. -/
def Bareless (e : Expr) : Prop :=
  ∀ n, ¬ Part (.name n) e

/-- If an operation reads no bare name, neither side does. -/
theorem Bareless.join {c : Chain} {t : TokenKind} {join : Expr → Expr → Expr} {l r : Expr}
    (hj : Joins c t join) (h : Bareless (join l r)) : Bareless l ∧ Bareless r := by
  cases hj with
  | or | and => exact ⟨fun n hn => h n (.boolLeft hn), fun n hn => h n (.boolRight hn)⟩
  | add | sub | mul | div | floorDiv | mod =>
    exact ⟨fun n hn => h n (.left hn), fun n hn => h n (.right hn)⟩

section
variable {ts : List TokenKind}

theorem lookedUp_kept {t : TokenKind} (ht : Kept t) (h : ∀ u ∈ ts, LookedUp u) :
    ∀ u ∈ t :: ts, LookedUp u :=
  List.forall_mem_cons.mpr ⟨.inl ht, h⟩

theorem lookedUp_word {word : String} (hword : word ∈ languageWords)
    (h : ∀ u ∈ ts, LookedUp u) : ∀ u ∈ .identifier word :: ts, LookedUp u :=
  List.forall_mem_cons.mpr ⟨.inr ⟨word, hword, rfl⟩, h⟩

end

mutual

/-- Where no name stands bare in the tree, none stands bare among the tokens of the phrase. -/
theorem Derives.lookedUp {p : Phrase} {n : Nat} {ts rest : List TokenKind} {e : Expr} :
    Derives p n ts e rest → Bareless e → (∀ t ∈ rest, LookedUp t) → ∀ t ∈ ts, LookedUp t
  | .plain h, he, hrest => h.lookedUp he hrest
  | .conditional hb ht ho, he, hrest =>
    hb.lookedUp (fun n hn => he n (.body hn)) <| lookedUp_kept trivial <|
      ht.lookedUp (fun n hn => he n (.test hn)) <| lookedUp_kept trivial <|
        ho.lookedUp (fun n hn => he n (.orelse hn)) hrest
  | .chain hf hl, he, hrest =>
    have ⟨hfirst, hts⟩ := Links.lookedUp hl he hrest
    Derives.lookedUp hf hfirst hts
  | .not h, he, hrest => lookedUp_kept trivial (h.lookedUp (fun n hn => he n (.operand hn)) hrest)
  | .comparison h, he, hrest => h.lookedUp he hrest
  | .single h, he, hrest => h.lookedUp he hrest
  | .compare hf hl, he, hrest =>
    hf.lookedUp (fun n hn => he n (.first hn)) <|
      hl.lookedUp (fun _ hlink n hn => he n (.link hlink hn)) hrest
  | .sign hs h, he, hrest =>
    lookedUp_kept hs.kept (h.lookedUp (fun n hn => he n (.operand hn)) hrest)
  | .unsigned h, he, hrest => h.lookedUp he hrest
  | .base h, he, hrest => h.lookedUp he hrest
  | .pow hb hx, he, hrest =>
    hb.lookedUp (fun n hn => he n (.left hn)) <| lookedUp_kept trivial <|
      hx.lookedUp (fun n hn => he n (.right hn)) hrest
  | .constant hc, _, hrest => lookedUp_kept hc.kept hrest
  | .name _, he, _ => absurd .self (he _)
  | .lookup, _, hrest =>
    lookedUp_word (by decide) <| lookedUp_kept trivial <| lookedUp_kept trivial <|
      lookedUp_kept trivial hrest
  | .call ha _, he, hrest =>
    lookedUp_word (Builtin.name_mem_languageWords _) <| lookedUp_kept trivial <|
      ha.lookedUp (fun _ harg n hn => he n (.arg harg hn)) (lookedUp_kept trivial hrest)
  | .parens h, he, hrest => lookedUp_kept trivial (h.lookedUp he (lookedUp_kept trivial hrest))

/-- The tree of a chain has what stands before its links as a part. -/
theorem Links.lookedUp {c : Chain} {n : Nat} {left e : Expr} {ts rest : List TokenKind} :
    Links c n left ts e rest → Bareless e → (∀ t ∈ rest, LookedUp t) →
      Bareless left ∧ ∀ t ∈ ts, LookedUp t
  | .done, he, hrest => ⟨he, hrest⟩
  | .link hj hr hl, he, hrest =>
    have ⟨hboth, hts⟩ := hl.lookedUp he hrest
    have ⟨hleft, hright⟩ := hboth.join hj
    ⟨hleft, lookedUp_kept hj.kept (Derives.lookedUp hr hright hts)⟩

theorem Comparisons.lookedUp {n : Nat} {ts rest : List TokenKind}
    {links : List (CompareOp × Expr)} :
    Comparisons n ts links rest → (∀ link ∈ links, Bareless link.2) →
      (∀ t ∈ rest, LookedUp t) → ∀ t ∈ ts, LookedUp t
  | .done, _, hrest => hrest
  | .link hc he hl, hlinks, hrest =>
    have ⟨hfirst, hothers⟩ := List.forall_mem_cons.mp hlinks
    lookedUp_kept hc.kept (he.lookedUp hfirst (hl.lookedUp hothers hrest))

theorem Arguments.lookedUp {n : Nat} {ts rest : List TokenKind} {args : List Expr} :
    Arguments n ts args rest → (∀ arg ∈ args, Bareless arg) → (∀ t ∈ rest, LookedUp t) →
      ∀ t ∈ ts, LookedUp t
  | .done, _, hrest => hrest
  | .last he, hargs, hrest => he.lookedUp (List.forall_mem_singleton.mp hargs) hrest
  | .more he ha, hargs, hrest =>
    have ⟨hfirst, hothers⟩ := List.forall_mem_cons.mp hargs
    he.lookedUp hfirst (lookedUp_kept trivial (ha.lookedUp hothers hrest))

end

/-- The tokens of an expression without bare names. -/
theorem lookedUp_of_parse {source : String} {e : Expr} (h : parse source = .ok e)
    (he : Bareless e) : ∀ t ∈ Lexer.kinds source.toList, LookedUp t := by
  obtain ⟨n, -, hderives⟩ := parseTokens_eq_ok_iff.mp h
  rw [Lexer.kinds_tokenize] at hderives
  refine hderives.lookedUp he ?_
  intro t ht
  cases ht

end Expr

/-! ## Texts of explicit look-ups -/

namespace Names

open RowSignals.Expr (LookedUp languageWords)
open Expr.Lexer (isNamePart kinds kinds_eq_cons scanToken_again skipBlanks_of_kinds_nil)
open Number (Stops)

/-- A name that starts with neither a sign, a blank, a digit or a point nor a word of the
language. -/
structure Foreign (name : List Char) : Prop where
  start : ∀ c ∈ name.head?, ¬ Apart c
  word : String.ofList (name.takeWhile isNamePart) ∉ languageWords

section
variable {names : List (List Char)}

/-- Foreign names start with no character between words. -/
theorem startApart_of_foreign
    (hnames : ∀ name ∈ names, isReplaceable name = true → Foreign name) : StartApart names := by
  intro c rest hc
  refine longestReference_of_head ?_
  intro name hmem hreplaceable hhead
  exact (hnames name hmem hreplaceable).start c hhead hc

/-- No foreign name stands where a word of the language does. -/
theorem longestReference_of_languageWord
    (hnames : ∀ name ∈ names, isReplaceable name = true → Foreign name) {w after : List Char}
    (hw : String.ofList w ∈ languageWords) (hparts : ∀ c ∈ w, isNamePart c = true)
    (hstops : Stops isNamePart after) : longestReference names (w ++ after) = none := by
  rw [Option.eq_none_iff_forall_ne_some]
  intro name hname
  obtain ⟨hmem, hreplaceable, -⟩ := longestReference_mem hname
  have hfirst := takeWhile_of_longestReference hname hparts hstops
  exact (hnames name hmem hreplaceable).word (hfirst ▸ hw)

/-- Foreign names leave a text alone in which only words of the language are names. -/
theorem resolve_lookedUp
    (hnames : ∀ name ∈ names, isReplaceable name = true → Foreign name) {ts : List TokenKind}
    (hts : ∀ t ∈ ts, LookedUp t) {cs : List Char} (hkinds : kinds cs = ts)
    {before : Option Char} (hfresh : Fresh before cs) : resolve names before cs = cs := by
  have hapart := startApart_of_foreign hnames
  induction ts generalizing cs before with
  | nil =>
    have hskip := skipBlanks_of_kinds_nil hkinds
    obtain ⟨last, gap, -, hgap, hresolve, -⟩ := resolve_skipBlanks hapart hfresh
    rw [hskip] at hgap hresolve
    rw [hresolve, resolve_nil, ← hgap]
  | cons t ts ih =>
    obtain ⟨ht, hts⟩ := List.forall_mem_cons.mp hts
    obtain ⟨c, rest, after, hskip, hscan, hafter⟩ := kinds_eq_cons hkinds
    obtain ⟨used, rfl, hshape, -⟩ := scanToken_again hscan ht.admissible
    obtain ⟨before, gap, hfresh, hgap, hresolve, -⟩ := resolve_skipBlanks hapart hfresh
    rw [hskip] at hfresh hgap hresolve
    have hword (w : List Char) (hw : t = .ofWord (String.ofList w))
        (hparts : ∀ d ∈ w, isNamePart d = true) (hstops : Stops isNamePart after) :
        longestReference names (w ++ after) = none := by
      subst hw
      exact longestReference_of_languageWord hnames ht.word hparts hstops
    obtain ⟨last, hlast, htoken⟩ := resolve_token hapart hshape ht.ne_dot hword hfresh
    rw [List.cons_append, List.cons_append] at htoken
    rw [hresolve, htoken, ih hts hafter hlast, ← hgap]

end

end Names

/-! ## Compiled texts -/

namespace CompiledExpr

open RowSignals.Expr (Bareless Resolves)
open Names (Foreign Stands Unquoted)

section
variable {source : String} {known : List String} {resolution : Resolution}
  {compiled : CompiledExpr}

/-- With explicit look-ups no name stands bare. -/
theorem bareless (h : compile source known .explicit = .ok compiled) : Bareless compiled.ast := by
  intro n hpart
  obtain ⟨-, hresolves, -⟩ := compile_eq_ok_iff.mp h
  cases (hresolves _ hpart).1

/-- What resolves with explicit look-ups resolves where bare names are allowed. -/
theorem resolves_bare {m : Expr} (h : Resolves known resolution m) :
    Resolves known .bare m := by
  cases m with
  | name n => exact ⟨rfl, h.2⟩
  | source n => exact h
  | _ => trivial

/-- A text that resolving leaves alone compiles alike with bare names. -/
theorem compile_bare_of_resolve_eq (h : compile source known .explicit = .ok compiled)
    (hresolve : Names.resolve (known.map String.toList) none source.toList = source.toList) :
    compile source known .bare = .ok compiled := by
  obtain ⟨hparse, hresolves, hsource, hreferences⟩ := compile_eq_ok_iff.mp h
  have htext : parsedText source known .bare = source := by
    refine String.toList_injective ?_
    rw [parsedText, Names.resolveNames, String.toList_ofList]
    exact hresolve
  rw [compile_eq_ok_iff, htext]
  refine ⟨hparse, ?_, hsource, hreferences⟩
  intro m hpart
  exact resolves_bare (hresolves m hpart)

/-- A text that compiles with explicit look-ups compiles to the same where bare names are allowed,
if no known name stands in it, and so in any case if no known name starts with a sign or with a
word of the language. As long as the known names have neither quotes nor marks of comments, a name
that stands in the text keeps it from being read alike: the text is refused or read as another
tree. -/
theorem compile_explicit_bare (h : compile source known .explicit = .ok compiled) :
    ((∀ name ∈ known, ¬ Stands name.toList none source.toList) →
      compile source known .bare = .ok compiled) ∧
    ((∀ name ∈ known, Names.isReplaceable name.toList = true → Foreign name.toList) →
      compile source known .bare = .ok compiled) ∧
    ((∀ name ∈ known, Unquoted name.toList) →
      ∀ name ∈ known, Stands name.toList none source.toList →
        ∀ other, compile source known .bare = .ok other → other.ast ≠ compiled.ast) := by
  obtain ⟨hparse, -⟩ := compile_eq_ok_iff.mp h
  refine ⟨?_, ?_, ?_⟩
  · intro hnone
    exact compile_bare_of_resolve_eq h
      (Names.resolve_of_none_stands (List.forall_mem_map.mpr hnone))
  · intro hforeign
    have htokens := Expr.lookedUp_of_parse hparse (bareless h)
    exact compile_bare_of_resolve_eq h (Names.resolve_lookedUp (List.forall_mem_map.mpr hforeign)
      htokens rfl (Names.fresh_of_not_continues rfl))
  · intro hunquoted name hmem hstands other hother hast
    obtain ⟨hresolved, -⟩ := compile_eq_ok_iff.mp hother
    rw [hast] at hresolved
    exact Expr.parse_resolve_ne hunquoted hparse hmem hstands hresolved

end

/-- A name with a hyphen, of which a comment holds one more, a name that starts like a function, and
a number, which is never replaced; and then a sum, with the sign between its operands known as a
name. -/
theorem compile_explicit_bare_hyphened :
    let source := "abs(SOURCES[\"a-b\"]) # a-b"
    let known := ["a-b", "absent", "1"]
    let sum := "1 + SOURCES[\"+\"]"
    (∃ compiled, compile source known .explicit = .ok compiled ∧
      compile source known .bare = .ok compiled) ∧
    ∃ compiled, compile sum ["+"] .explicit = .ok compiled ∧
      ∀ other, compile sum ["+"] .bare = .ok other → other.ast ≠ compiled.ast := by
  intro source known sum
  constructor
  · let compiled : CompiledExpr := {
      source := source
      ast := .call .abs [.source "a-b"]
      references := ["a-b"] }
    have h : compile source known .explicit = .ok compiled := by cbv
    -- the names start like no word of the language; the number is never replaced
    have hforeign : ∀ name ∈ known, Names.isReplaceable name.toList = true →
        Foreign name.toList := by
      intro name hname hreplaceable
      simp only [known, List.mem_cons, List.not_mem_nil, or_false] at hname
      rcases hname with rfl | rfl | rfl
      · refine ⟨?_, by decide⟩
        rintro c ⟨rfl⟩
        decide
      · refine ⟨?_, by decide⟩
        rintro c ⟨rfl⟩
        decide
      · have hnumeral : Names.isReplaceable "1".toList = false := by decide +kernel
        cases hnumeral.symm.trans hreplaceable
    exact ⟨compiled, h, (compile_explicit_bare h).2.1 hforeign⟩
  · let compiled : CompiledExpr := {
      source := sum
      ast := .binary .add (.literal (.int 1)) (.source "+")
      references := ["+"] }
    have h : compile sum ["+"] .explicit = .ok compiled := by cbv
    have hunquoted : ∀ name ∈ ["+"], Unquoted name.toList := by
      intro name hname
      obtain rfl := List.mem_singleton.mp hname
      exact ⟨List.forall_mem_singleton.mpr (by decide), by decide⟩
    -- the sign stands in front of its known name, after the number and a blank
    have hstands : Stands "+".toList none sum.toList := by
      have hsum : sum.toList = ['1', ' ', '+', ' ', 'S', 'O', 'U', 'R', 'C', 'E', 'S', '[', '"',
        '+', '"', ']'] := by simp [sum]
      rw [hsum]
      exact .later (by decide) (.later (by decide) (.here (by decide) rfl rfl rfl))
    exact ⟨compiled, h, (compile_explicit_bare h).2.2 hunquoted "+" List.mem_cons_self hstands⟩

/-- The word of the look-up is a known name, and so is replaced in every look-up. -/
theorem compile_look_up_of_sources :
    let source := "SOURCES[\"a\"]"
    let known := ["SOURCES", "a"]
    (∃ compiled, compile source known .explicit = .ok compiled ∧
      compiled.ast = .source "a") ∧
      compile source known .bare
        = .error (.invalid ⟨.trailing .leftBracket, 1, 19⟩) := by
  intro source known
  constructor
  · exact ⟨⟨source, .source "a", ["a"]⟩, by cbv, rfl⟩
  · cbv

/-- A known name that is a line end stands in a text whose tree stays: its look-up goes on with the
comment before it. -/
example : compile "1 # c\n" ["\n"] .bare = .ok ⟨"1 # c\n", .literal (.int 1), []⟩ := by
  cbv

end CompiledExpr

end RowSignals
