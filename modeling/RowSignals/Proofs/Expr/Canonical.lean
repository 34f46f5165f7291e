import RowSignals.Proofs.Expr.Printing
import RowSignals.Proofs.Expr.Scanning
import RowSignals.Proofs.Number.Unsigned
import RowSignals.Proofs.Results

/-!
# Canonical texts of accepted expressions

Of the accepted expressions only those are read back from their canonical text that have finite
constants and do not nest too deeply. A constant that is too large for a float is infinite, and
the text of an infinite float is a word. The canonical text has more parentheses than an accepted
text needs, and each of them nests.

* `Written`: the tokens that texts can have; `written_of_mem_kinds`: they have no others.
* `reread`: the expression that a canonical text reads back as.
* `Derives.wellFormed`: whatever is read from tokens of texts, a text can write its `reread`.
* `parse_print_of_parse`: which accepted expressions are read back.
-/

namespace RowSignals.Expr

open Lexer (Word isNameStart isNamePart isNamePart_of_isNameStart scanNumber scanName scanToken
  scanNumber_eq NumberParts scanToken_quote kinds)
open Number (Unsigned spanDigits)

/-! ## The tokens of texts -/

/-- The tokens that a text can have. Numbers have no sign, whole numbers fit 64 bits, and
identifiers are words but no keywords. -/
def Written : TokenKind → Prop
  | .int i => 0 ≤ i ∧ i < 2 ^ 63
  | .float x => Unsigned x
  | .identifier word => Identifier word
  | _ => True

theorem written_ofWord {word : String} (h : Word word.toList) : Written (.ofWord word) := by
  unfold TokenKind.ofWord
  split
  case h_9 htrue hfalse hnone hand hor hnot hif helse =>
    split
    · exact trivial
    · rename_i hreserved
      refine ⟨h, ?_⟩
      -- a keyword is one of the words above or a reserved one
      intro hkeyword
      rcases List.mem_append.mp hkeyword with hword | hword
      · simp only [List.mem_cons, List.not_mem_nil, or_false] at hword
        tauto
      · exact hreserved (List.contains_iff_mem.mpr hword)
  all_goals exact trivial

theorem scanName_written {c : Char} (cs : List Char) (hc : isNameStart c = true) :
    Written (scanName c cs).1 := by
  by_cases hprivate : (decide (c = '_') && decide (cs.head? = some '_')) = true
  · rw [scanName, if_pos hprivate]
    exact trivial
  · rw [scanName, if_neg hprivate]
    refine written_ofWord ?_
    rw [String.toList_ofList]
    refine ⟨⟨c, _, rfl, hc⟩, ?_, ?_⟩
    · intro d hd
      rcases List.mem_cons.mp hd with rfl | hd
      · exact isNamePart_of_isNameStart hc
      · exact List.mem_takeWhile_imp hd
    · -- a second underscore would be the next character of the text
      rintro ⟨more, hmore⟩
      obtain ⟨rfl, htake⟩ := List.cons.inj hmore
      have hnext : '_' :: more <+: cs := by
        rw [show '_' :: more = cs.takeWhile isNamePart from htake]
        exact List.takeWhile_prefix isNamePart
      obtain ⟨rest, rfl⟩ := hnext
      exact hprivate rfl

/-- The first character of a number is its first digit or its point. -/
theorem numberText_eq_cons {c : Char} {cs whole places exponent rest : List Char}
    (hc : c.isDigit = true ∨ c = '.') (h : NumberParts (c :: cs) whole places exponent rest) :
    ∃ more, whole ++ places = c :: more := by
  rcases hc with hc | rfl
  · obtain ⟨digits, rest, -, -, -, hspan⟩ := Lexer.spanDigits_cons_split cs hc
    obtain ⟨rfl, -⟩ := Prod.mk.inj (hspan.symm.trans h.whole)
    exact ⟨digits ++ places, rfl⟩
  · have hpoint : spanDigits ('.' :: cs) = ([], '.' :: cs) :=
      Number.spanDigits_append Number.allDigits_nil (.cons _ rfl)
    obtain ⟨rfl, hafter⟩ := Prod.mk.inj (hpoint.symm.trans h.whole)
    have hplaces := h.places
    rw [← hafter] at hplaces
    exact ⟨_, (congrArg Prod.fst hplaces).symm⟩

theorem scanNumber_written {c : Char} {cs : List Char} (hc : c.isDigit = true ∨ c = '.') :
    Written (scanNumber (c :: cs)).1 := by
  obtain ⟨whole, places, exponent, rest, -, hparts, -, -, -⟩ := Lexer.exists_numberParts (c :: cs)
  by_cases hname : rest.head?.any isNameStart = true
  · rw [Lexer.scanNumber_name hparts hname]
    exact trivial
  · rw [← Number.stops_iff] at hname
    rw [scanNumber_eq hparts hname, Lexer.writtenKind]
    split
    · rename_i hint
      simp only [Bool.and_eq_true, decide_eq_true_eq] at hint
      exact ⟨Int.natCast_nonneg _, by exact_mod_cast hint.2⟩
    · split
      · rename_i x hx
        obtain ⟨more, hmore⟩ := numberText_eq_cons hc hparts
        rw [hmore, List.cons_append] at hx
        exact Number.readFloat?_unsigned hc hx
      · exact trivial

theorem written_of_isSign {kind : TokenKind} (h : Lexer.IsSign kind) : Written kind := by
  cases kind with
  | int | float | identifier => exact h.elim
  | _ => trivial

/-- Every token that the scanner cuts off is one that a text can have. -/
theorem scanToken_written (c : Char) (cs : List Char) : Written (scanToken c cs).1 := by
  cases Lexer.lead c with
  | sign hscan _ hsign =>
    rw [hscan]
    exact written_of_isSign hsign
  | pair hscan _ _ hlonger hshorter =>
    rw [hscan]
    exact written_of_isSign (Lexer.either_isSign hlonger hshorter cs)
  | point hpoint =>
    subst hpoint
    rcases Lexer.scanToken_point_cases cs with hscan | hscan
    · rw [hscan]
      exact scanNumber_written (.inr rfl)
    · rw [hscan]
      trivial
  | quote hquote =>
    rw [scanToken_quote hquote]
    split
    · trivial
    · trivial
  | digit hdigit =>
    rw [Lexer.scanToken_digit hdigit]
    exact scanNumber_written (.inl hdigit)
  | word hname =>
    rw [Lexer.scanToken_nameStart hname]
    exact scanName_written cs hname
  | unexpected hscan =>
    rw [hscan]
    trivial

theorem written_of_mem_kinds {cs : List Char} : ∀ t ∈ kinds cs, Written t := by
  fun_induction kinds cs with
  | case1 => exact List.forall_mem_nil _
  | case2 cs c rest hskip ih =>
    intro t ht
    rcases List.mem_cons.mp ht with rfl | ht
    · exact scanToken_written c rest
    · exact ih t ht

/-- Tokens all of which a text can have. -/
def AllWritten (ts : List TokenKind) : Prop :=
  ∀ t ∈ ts, Written t

section
variable {t : TokenKind} {ts rest : List TokenKind}

theorem AllWritten.head (h : AllWritten (t :: ts)) : Written t :=
  h t List.mem_cons_self

theorem AllWritten.tail (h : AllWritten (t :: ts)) : AllWritten ts :=
  fun u hu => h u (List.mem_cons_of_mem t hu)

/-- What follows a phrase is written if the phrase and what follows it are. -/
theorem AllWritten.after (h : AllWritten ts) (hspans : Spans ts rest) : AllWritten rest := by
  obtain ⟨used, rfl, -⟩ := hspans
  exact fun u hu => h u (List.mem_append_right used hu)

end

/-! ## What a canonical text reads back as -/

/-- What the text of a constant reads back as. The text of an infinite float is a word, and so a
name. -/
def rereadLiteral : Literal → Expr
  | .float x =>
    match Number.decode x with
    | .finite _ _ _ => .literal (.float x)
    | _ => .name (Number.report x)
  | value => .literal value

mutual

/-- What the canonical text of an expression reads back as, apart from its nesting. -/
def reread : Expr → Expr
  | .literal value => rereadLiteral value
  | .name n => .name n
  | .source key => .source key
  | .unary op e => .unary op (reread e)
  | .binary op l r => .binary op (reread l) (reread r)
  | .chained first links => .chained (reread first) (rereadLinks links)
  | .boolean op l r => .boolean op (reread l) (reread r)
  | .conditional body test orelse => .conditional (reread body) (reread test) (reread orelse)
  | .call f args => .call f (rereadArgs args)

/-- What the operands of a chain read back as. -/
def rereadLinks : List (CompareOp × Expr) → List (CompareOp × Expr)
  | [] => []
  | (op, e) :: links => (op, reread e) :: rereadLinks links

/-- What arguments read back as. -/
def rereadArgs : List Expr → List Expr
  | [] => []
  | e :: args => reread e :: rereadArgs args

end

/-- A constant and what it reads back as have one text, and neither nests. -/
theorem print_rereadLiteral (value : Literal) :
    print (rereadLiteral value) = printLiteral value ∧ levels (rereadLiteral value) = 0 := by
  unfold rereadLiteral
  split
  · split
    · exact ⟨rfl, rfl⟩
    · exact ⟨rfl, rfl⟩
  · exact ⟨rfl, rfl⟩

/-- Links that read back as others have the same text if their operands have. -/
theorem printLinks_rereadLinks {links : List (CompareOp × Expr)}
    (h : ∀ link ∈ links, print (reread link.2) = print link.2) :
    printLinks (rereadLinks links) = printLinks links := by
  induction links with
  | nil => rfl
  | cons link links ih =>
    obtain ⟨op, e⟩ := link
    rw [rereadLinks, printLinks, printLinks, h _ List.mem_cons_self,
      ih fun link hlink => h link (List.mem_cons_of_mem _ hlink)]

theorem printMoreArgs_rereadArgs {args : List Expr}
    (h : ∀ arg ∈ args, print (reread arg) = print arg) :
    printMoreArgs (rereadArgs args) = printMoreArgs args := by
  induction args with
  | nil => rfl
  | cons arg args ih =>
    rw [rereadArgs, printMoreArgs, printMoreArgs, h arg List.mem_cons_self,
      ih fun arg harg => h arg (List.mem_cons_of_mem _ harg)]

theorem printArgs_rereadArgs {args : List Expr}
    (h : ∀ arg ∈ args, print (reread arg) = print arg) :
    printArgs (rereadArgs args) = printArgs args := by
  cases args with
  | nil => rfl
  | cons arg args =>
    rw [rereadArgs, printArgs, printArgs, h arg List.mem_cons_self,
      printMoreArgs_rereadArgs fun arg harg => h arg (List.mem_cons_of_mem _ harg)]

/-- An expression and what it reads back as have one canonical text. -/
theorem print_reread (e : Expr) : print (reread e) = print e := by
  induction e using rec_parts with
  | literal value =>
    rw [reread, (print_rereadLiteral value).1]
    rfl
  | name | source => rfl
  | unary op e ih => rw [reread, print, print, ih]
  | binary op l r ihl ihr => rw [reread, print, print, ihl, ihr]
  | chained first links ihf ihl =>
    rw [reread, print, print, ihf, printLinks_rereadLinks ihl]
  | boolean op l r ihl ihr => rw [reread, print, print, ihl, ihr]
  | conditional body test orelse ihb iht iho => rw [reread, print, print, ihb, iht, iho]
  | call f args ih => rw [reread, print, print, printArgs_rereadArgs ih]

/-- Links that read back as others take as many levels if their operands do. -/
theorem linkLevels_rereadLinks {links : List (CompareOp × Expr)}
    (h : ∀ link ∈ links, levels (reread link.2) = levels link.2) :
    linkLevels (rereadLinks links) = linkLevels links := by
  induction links with
  | nil => rfl
  | cons link links ih =>
    obtain ⟨op, e⟩ := link
    rw [rereadLinks, linkLevels, linkLevels, h _ List.mem_cons_self,
      ih fun link hlink => h link (List.mem_cons_of_mem _ hlink)]

theorem argLevels_rereadArgs {args : List Expr}
    (h : ∀ arg ∈ args, levels (reread arg) = levels arg) :
    argLevels (rereadArgs args) = argLevels args := by
  induction args with
  | nil => rfl
  | cons arg args ih =>
    rw [rereadArgs, argLevels, argLevels, h arg List.mem_cons_self,
      ih fun arg harg => h arg (List.mem_cons_of_mem _ harg)]

/-- What a canonical text reads back as takes as many levels. -/
theorem levels_reread (e : Expr) : levels (reread e) = levels e := by
  induction e using rec_parts with
  | literal value => rw [reread, (print_rereadLiteral value).2, levels]
  | name | source => rfl
  | unary op e ih => rw [reread, levels, levels, ih]
  | binary op l r ihl ihr => rw [reread, levels, levels, ihl, ihr]
  | chained first links ihf ihl =>
    rw [reread, levels, levels, ihf, linkLevels_rereadLinks ihl]
  | boolean op l r ihl ihr => rw [reread, levels, levels, ihl, ihr]
  | conditional body test orelse ihb iht iho => rw [reread, levels, levels, ihb, iht, iho]
  | call f args ih => rw [reread, levels, levels, argLevels_rereadArgs ih]

/-! ## Texts can write what is read -/

theorem report_infinite {x : Float} (h : Number.decode x = .infinite false) :
    Number.report x = "inf" := by
  rw [Number.report, Number.format, h]
  rfl

/-- The text of an infinite float is a name. -/
theorem wellFormed_inf : WellFormed (.name "inf") := by
  have hparts : ∀ p ∈ ["inf"], Identifier p := by
    intro p hp
    obtain rfl := List.mem_singleton.mp hp
    exact ⟨word_of_decide rfl rfl (by decide), by decide⟩
  exact .name (List.cons_ne_nil _ _) hparts

/-- A constant of a text reads back as something well-formed. -/
theorem wellFormed_constant {t : TokenKind} {value : Literal} (h : Constant t value)
    (ht : Written t) : WellFormed (rereadLiteral value) := by
  cases h with
  | int n => exact .int ht.1 ht.2
  | float x =>
    rcases ht with ⟨m, e, hx⟩ | hx
    · rw [rereadLiteral, hx]
      exact .float hx
    · rw [rereadLiteral, hx, report_infinite hx]
      exact wellFormed_inf
  | string s => exact .str s
  | trueWord | falseWord => exact .bool _
  | noneWord => exact .none

/-- The parts of a dotted name are identifiers. -/
theorem Dotted.parts {word dotted : String} {ts rest : List TokenKind}
    (h : Dotted word ts dotted rest) (hts : AllWritten ts) :
    ∃ parts, (∀ p ∈ parts, Identifier p) ∧ dotted = ".".intercalate (word :: parts) := by
  induction h with
  | done => exact ⟨[], List.forall_mem_nil _, String.intercalate_singleton.symm⟩
  | @part word part dotted ts rest _ ih =>
    obtain ⟨parts, hparts, rfl⟩ := ih hts.tail.tail
    refine ⟨part :: parts, ?_, ?_⟩
    · intro p hp
      rcases List.mem_cons.mp hp with rfl | hp
      · exact hts.tail.head
      · exact hparts p hp
    · cases parts with
      | nil => simp [String.intercalate_cons_cons]
      | cons q parts => simp [String.intercalate_cons_cons, String.append_assoc]

/-- An operation reads back as a well-formed one if both sides do. -/
theorem Joins.wellFormed {c : Chain} {t : TokenKind} {join : Expr → Expr → Expr}
    (h : Joins c t join) {l r : Expr} (hl : WellFormed (reread l)) (hr : WellFormed (reread r)) :
    WellFormed (reread (join l r)) := by
  cases h with
  | or | and => exact .boolean _ hl hr
  | add | sub | mul | div | floorDiv | mod => exact .binary _ hl hr

theorem length_rereadArgs (args : List Expr) : (rereadArgs args).length = args.length := by
  induction args with
  | nil => rfl
  | cons arg args ih => rw [rereadArgs, List.length_cons, List.length_cons, ih]

theorem rereadLinks_ne_nil {links : List (CompareOp × Expr)} (h : links ≠ []) :
    rereadLinks links ≠ [] := by
  cases links with
  | nil => exact h
  | cons link links => exact List.cons_ne_nil _ _

mutual

/-- Whatever is read from tokens of texts, a text can write what it reads back as. -/
theorem Derives.wellFormed {p : Phrase} {n : Nat} {ts rest : List TokenKind} {e : Expr} :
    Derives p n ts e rest → AllWritten ts → WellFormed (reread e)
  | .plain h, hts => h.wellFormed hts
  | .conditional hb ht ho, hts => by
    have hus := (hts.after hb.spans).tail
    have hvs := (hus.after ht.spans).tail
    exact .conditional (hb.wellFormed hts) (ht.wellFormed hus) (ho.wellFormed hvs)
  | .chain hf hl, hts =>
    Links.wellFormed hl (hts.after (Derives.spans hf)) (Derives.wellFormed hf hts)
  | .not h, hts => .unary .not (h.wellFormed hts.tail)
  | .comparison h, hts => h.wellFormed hts
  | .single h, hts => h.wellFormed hts
  | .compare hf hl, hts =>
    .chained (hf.wellFormed hts) (rereadLinks_ne_nil (List.cons_ne_nil _ _))
      (hl.wellFormed (hts.after hf.spans))
  | .sign _ h, hts => .unary _ (h.wellFormed hts.tail)
  | .unsigned h, hts => h.wellFormed hts
  | .base h, hts => h.wellFormed hts
  | .pow hb he, hts =>
    .binary .pow (hb.wellFormed hts) (he.wellFormed (hts.after hb.spans).tail)
  | .constant hc, hts => wellFormed_constant hc hts.head
  | .name hd, hts => by
    obtain ⟨parts, hparts, rfl⟩ := hd.parts hts.tail
    refine .name (List.cons_ne_nil _ _) ?_
    intro p hp
    rcases List.mem_cons.mp hp with rfl | hp
    · exact hts.head
    · exact hparts p hp
  | .lookup, _ => .source _
  | .call ha harity, hts =>
    .call ((length_rereadArgs _).symm ▸ harity) (ha.wellFormed hts.tail.tail)
  | .parens h, hts => h.wellFormed hts.tail

theorem Links.wellFormed {c : Chain} {n : Nat} {left e : Expr} {ts rest : List TokenKind} :
    Links c n left ts e rest → AllWritten ts → WellFormed (reread left) → WellFormed (reread e)
  | .done, _, hleft => hleft
  | .link hj hr hl, hts, hleft =>
    hl.wellFormed (hts.tail.after hr.spans) (hj.wellFormed hleft (hr.wellFormed hts.tail))

theorem Comparisons.wellFormed {n : Nat} {ts rest : List TokenKind}
    {links : List (CompareOp × Expr)} : Comparisons n ts links rest → AllWritten ts →
    ∀ link ∈ rereadLinks links, WellFormed link.2
  | .done, _ => List.forall_mem_nil _
  | .link _ he hl, hts => by
    intro link hlink
    rcases List.mem_cons.mp hlink with rfl | hlink
    · exact he.wellFormed hts.tail
    · exact hl.wellFormed (hts.tail.after he.spans) link hlink

theorem Arguments.wellFormed {n : Nat} {ts rest : List TokenKind} {args : List Expr} :
    Arguments n ts args rest → AllWritten ts → ∀ arg ∈ rereadArgs args, WellFormed arg
  | .done, _ => List.forall_mem_nil _
  | .last he, hts => by
    intro arg harg
    obtain rfl := List.mem_singleton.mp harg
    exact he.wellFormed hts
  | .more he ha, hts => by
    intro arg harg
    rcases List.mem_cons.mp harg with rfl | harg
    · exact he.wellFormed hts
    · exact ha.wellFormed (hts.after he.spans).tail arg harg

end

/-- Whatever a text is read as, its canonical text reads back as something well-formed. -/
theorem wellFormed_reread {source : String} {e : Expr} (h : parse source = .ok e) :
    WellFormed (reread e) := by
  obtain ⟨n, -, hderives⟩ := parseTokens_eq_ok_iff.mp h
  refine hderives.wellFormed ?_
  rw [Lexer.kinds_tokenize]
  exact written_of_mem_kinds

/-! ## The round trip of accepted expressions -/

/-- The canonical text of a well-formed expression is derived with one level more than it has. -/
theorem derives_print {e : Expr} (h : WellFormed e) :
    Derives .expression (levels e + 1) (Lexer.tokenize (print e)).kinds e [] := by
  rw [kinds_tokenize_print h]
  exact .plain (derives_levels h []).or_of_primary

section
variable {source : String} {e : Expr}

/-- The canonical text of an accepted expression is that of its `reread`. -/
theorem derives_print_reread (h : parse source = .ok e) :
    Derives .expression (levels e + 1) (Lexer.tokenize (print e)).kinds (reread e) [] := by
  have hderives := derives_print (wellFormed_reread h)
  rwa [print_reread, levels_reread] at hderives

/-- Where its levels are within the limit the canonical text is read back. -/
theorem parse_print_eq_reread (h : parse source = .ok e) (hlevels : levels e < maxDepth) :
    parse (print e) = .ok (reread e) :=
  parseTokens_eq_ok_iff.mpr ⟨_, hlevels, derives_print_reread h⟩

theorem print_nestsTooDeeply (h : parse source = .ok e) (hlevels : maxDepth ≤ levels e) :
    NestsTooDeeply (Lexer.tokenize (print e)) :=
  nestsTooDeeply_of_deep (derives_print_reread h) (Nat.lt_succ_of_le hlevels)

/-- The canonical text of an accepted expression reads back as the expression with a name in
place of every infinite constant, or nests too deeply. So an accepted expression is read back
just if all of its constants are finite and its canonical text nests no deeper than is
allowed. -/
theorem parse_print_of_parse (h : parse source = .ok e) :
    (levels e < maxDepth → parse (print e) = .ok (reread e)) ∧
    (maxDepth ≤ levels e → NestsTooDeeply (Lexer.tokenize (print e))) ∧
    (parse (print e) = .ok e ↔ WellFormed e ∧ levels e < maxDepth) := by
  refine ⟨parse_print_eq_reread h, print_nestsTooDeeply h, ?_, ?_⟩
  · -- what is read back is the `reread`, which texts can write
    intro hback
    rcases Nat.lt_or_ge (levels e) maxDepth with hlevels | hlevels
    · have hsame : reread e = e :=
        Except.ok.inj ((parse_print_eq_reread h hlevels).symm.trans hback)
      exact ⟨hsame ▸ wellFormed_reread h, hlevels⟩
    · obtain ⟨line, column, herror⟩ := print_nestsTooDeeply h hlevels
      cases herror.symm.trans hback
  · rintro ⟨hwell, hlevels⟩
    exact parseTokens_eq_ok_iff.mpr ⟨_, hlevels, derives_print hwell⟩

end

/-- A constant that is too large for a float, as a summand. -/
theorem parse_print_of_parse_infinite :
    let infinity := Number.ofMagnitude false (2047 * 2 ^ 52)
    let e : Expr := .binary .add (.literal (.float infinity)) (.name "x")
    parse "1e999 + x" = .ok e ∧ levels e < maxDepth ∧
      parse (print e) = .ok (.binary .add (.name "inf") (.name "x")) := by
  intro infinity e
  have hparse : parse "1e999 + x" = .ok e := by cbv
  have hinfinite : Number.decode infinity = .infinite false := by decide +kernel
  have hreread : reread e = .binary .add (.name "inf") (.name "x") := by
    rw [reread, reread, reread, rereadLiteral, hinfinite, report_infinite hinfinite]
  have hlevels : levels e < maxDepth := by decide
  exact ⟨hparse, hlevels, hreread ▸ (parse_print_of_parse hparse).1 hlevels⟩

/-- The text of a constant that is too large for a float reads back as a name. With 64 signs in
front of a name, the canonical text nests too deeply, since each sign stands in parentheses. -/
theorem parse_print_not_closed :
    (∃ e, parse "1e999" = .ok e ∧ parse (print e) = .ok (.name "inf")) ∧
    ∃ e, parse (String.ofList (List.replicate 64 '-' ++ ['x'])) = .ok e ∧
      NestsTooDeeply (Lexer.tokenize (print e)) := by
  constructor
  · refine ⟨.literal (.float (Number.ofMagnitude false (2047 * 2 ^ 52))), ?_, ?_⟩
    · cbv
    · cbv
  · have hlevels : (parse (String.ofList (List.replicate 64 '-' ++ ['x']))).toOption.map levels
        = some maxDepth := by decide +kernel
    obtain ⟨e, hparse, hlevels⟩ := exists_of_toOption_map hlevels
    exact ⟨e, hparse, print_nestsTooDeeply hparse hlevels.ge⟩

end RowSignals.Expr
