import RowSignals.Proofs.Expr.Grammar
import RowSignals.Proofs.Expr.Lexing

/-!
# The tokens of printed expressions

What the lexer finds in the canonical text of an expression.

* `WellFormed`: the expressions that a text can write.
* `spell`: the tokens of the canonical text of an expression.
* `kinds_print`: the lexer finds those tokens, whatever delimited text follows.
-/

namespace RowSignals

/-! ## The tokens of constants and operators -/

/-- The token of a constant. -/
def Literal.token : Literal → TokenKind
  | .int i => .int i
  | .float x => .float x
  | .str s => .string s
  | .bool true => .trueWord
  | .bool false => .falseWord
  | .none => .noneWord

/-- The token of an operator in front of its operand. -/
def UnaryOp.token : UnaryOp → TokenKind
  | .neg => .minus
  | .pos => .plus
  | .not => .notWord

/-- The token of an arithmetic operator. -/
def BinaryOp.token : BinaryOp → TokenKind
  | .add => .plus
  | .sub => .minus
  | .mul => .star
  | .div => .slash
  | .floorDiv => .doubleSlash
  | .mod => .percent
  | .pow => .doubleStar

/-- The token of a comparison. -/
def CompareOp.token : CompareOp → TokenKind
  | .eq => .eq
  | .ne => .ne
  | .lt => .lt
  | .le => .le
  | .gt => .gt
  | .ge => .ge

/-- The token of a logical operator. -/
def BoolOp.token : BoolOp → TokenKind
  | .and => .andWord
  | .or => .orWord

namespace Expr

open Lexer (Word Delimited kinds)
open Number (Stops)

/-! ## Well-formed expressions -/

/-- The words that are no names. -/
def keywords : List String :=
  ["True", "False", "None", "and", "or", "not", "if", "else"] ++ reservedWords

/-- A name without points: a word that is no keyword. -/
structure Identifier (s : String) : Prop where
  word : Word s.toList
  notKeyword : s ∉ keywords

/-- The expressions that a text can write: whole numbers and floats without a sign, names of
identifiers joined by points, chains with at least one comparison, and calls with as many
arguments as the function takes. Texts and looked up sources are arbitrary. -/
inductive WellFormed : Expr → Prop
  | int {i : Int} : 0 ≤ i → i < 2 ^ 63 → WellFormed (.literal (.int i))
  | float {x : Float} {m : Nat} {e : Int} :
    Number.decode x = .finite false m e → WellFormed (.literal (.float x))
  | str (s : String) : WellFormed (.literal (.str s))
  | bool (b : Bool) : WellFormed (.literal (.bool b))
  | none : WellFormed (.literal .none)
  | name {parts : List String} : parts ≠ [] → (∀ p ∈ parts, Identifier p) →
    WellFormed (.name (".".intercalate parts))
  | source (key : String) : WellFormed (.source key)
  | unary (op : UnaryOp) {e : Expr} : WellFormed e → WellFormed (.unary op e)
  | binary (op : BinaryOp) {l r : Expr} :
    WellFormed l → WellFormed r → WellFormed (.binary op l r)
  | chained {first : Expr} {links : List (CompareOp × Expr)} : WellFormed first →
    links ≠ [] → (∀ link ∈ links, WellFormed link.2) → WellFormed (.chained first links)
  | boolean (op : BoolOp) {l r : Expr} :
    WellFormed l → WellFormed r → WellFormed (.boolean op l r)
  | conditional {body test orelse : Expr} : WellFormed body → WellFormed test →
    WellFormed orelse → WellFormed (.conditional body test orelse)
  | call {f : Builtin} {args : List Expr} : InArity f args.length →
    (∀ e ∈ args, WellFormed e) → WellFormed (.call f args)

/-! ## The tokens of the canonical text

The tokens of what follows are an argument, as the grammar has them, so that no two lists are
appended. -/

/-- The tokens of the parts of a name in front of some more. -/
def spellParts : List String → List TokenKind → List TokenKind
  | [], rest => rest
  | [p], rest => .identifier p :: rest
  | p :: parts, rest => .identifier p :: .dot :: spellParts parts rest

/-- The tokens of a name in front of some more. -/
def spellName (name : String) (rest : List TokenKind) : List TokenKind :=
  spellParts ((name.toList.splitOn '.').map String.ofList) rest

mutual

/-- The tokens of the canonical text of an expression in front of some more. -/
def spell : Expr → List TokenKind → List TokenKind
  | .literal value, rest => value.token :: rest
  | .name n, rest => spellName n rest
  | .source key, rest =>
    .identifier sourcesName :: .leftBracket :: .string key :: .rightBracket :: rest
  | .unary op e, rest => .leftParen :: op.token :: spell e (.rightParen :: rest)
  | .binary op l r, rest => .leftParen :: spell l (op.token :: spell r (.rightParen :: rest))
  | .chained first links, rest =>
    .leftParen :: spell first (spellLinks links (.rightParen :: rest))
  | .boolean op l r, rest => .leftParen :: spell l (op.token :: spell r (.rightParen :: rest))
  | .conditional body test orelse, rest =>
    .leftParen :: spell body
      (.ifWord :: spell test (.elseWord :: spell orelse (.rightParen :: rest)))
  | .call f args, rest => .identifier f.name :: .leftParen :: spellArgs args (.rightParen :: rest)

/-- The tokens of the links of a chain in front of some more. -/
def spellLinks : List (CompareOp × Expr) → List TokenKind → List TokenKind
  | [], rest => rest
  | (op, e) :: links, rest => op.token :: spell e (spellLinks links rest)

/-- The tokens of arguments in front of some more. -/
def spellArgs : List Expr → List TokenKind → List TokenKind
  | [], rest => rest
  | e :: args, rest => spell e (spellMoreArgs args rest)

/-- The tokens of the arguments after the first in front of some more. -/
def spellMoreArgs : List Expr → List TokenKind → List TokenKind
  | [], rest => rest
  | e :: args, rest => .comma :: spell e (spellMoreArgs args rest)

end

/-! ## The lexer finds those tokens -/

theorem delimited_cons {c : Char} (cs : List Char) (h : Lexer.isNamePart c = false)
    (hc : c ≠ '.') : Delimited (c :: cs) where
  stops := .cons cs h
  noPoint := by
    rintro d ⟨rfl⟩
    exact hc

/-- An arithmetic operator before a blank is cut off as its token. -/
theorem kinds_operator (op : BinaryOp) (cs : List Char) :
    kinds (op.symbol.toList ++ ' ' :: cs) = op.token :: kinds cs := by
  rw [← Lexer.kinds_space cs]
  cases op
  all_goals exact Lexer.kinds_cons _ rfl (by decide)

theorem kinds_comparison (op : CompareOp) (cs : List Char) :
    kinds (op.symbol.toList ++ ' ' :: cs) = op.token :: kinds cs := by
  rw [← Lexer.kinds_space cs]
  cases op
  all_goals exact Lexer.kinds_cons _ rfl (by decide)

/-- A word that ends where no further character of a name stands is cut off as what it means. -/
theorem kinds_name {s : String} (hw : Word s.toList) {rest : List Char}
    (hr : Stops Lexer.isNamePart rest) :
    kinds (s.toList ++ rest) = .ofWord s :: kinds rest := by
  rw [Lexer.kinds_word hw hr, String.ofList_toList]

/-- A text is a word if its characters pass the tests of the lexer and it does not start with
two underscores. -/
theorem word_of_decide {c : Char} {cs : List Char} (hc : Lexer.isNameStart c = true)
    (hcs : (c :: cs).all Lexer.isNamePart = true) (hprivate : ¬ ['_', '_'] <+: c :: cs) :
    Word (c :: cs) where
  start := ⟨c, cs, rfl, hc⟩
  parts := List.all_eq_true.mp hcs
  notPrivate := hprivate

/-- A logical operator before a blank is cut off as its token. -/
theorem kinds_boolOp (op : BoolOp) (cs : List Char) :
    kinds (op.word.toList ++ ' ' :: cs) = op.token :: kinds cs := by
  have hw : Word op.word.toList := by
    cases op
    · exact word_of_decide rfl rfl (by decide)
    · exact word_of_decide rfl rfl (by decide)
  rw [kinds_name hw (.cons _ rfl), Lexer.kinds_space]
  cases op
  · rfl
  · rfl

theorem ofWord_identifier {s : String} (h : s ∉ keywords) :
    TokenKind.ofWord s = .identifier s := by
  have hreserved : ¬ reservedWords.contains s = true := by
    rw [List.contains_iff_mem]
    intro hmem
    exact h (List.mem_append_right _ hmem)
  -- every other case of `ofWord` is about a keyword
  unfold TokenKind.ofWord
  split
  case h_9 => rw [if_neg hreserved]
  all_goals exact absurd h (by decide)

theorem Identifier.kinds {s : String} (h : Identifier s) {rest : List Char}
    (hr : Stops Lexer.isNamePart rest) :
    kinds (s.toList ++ rest) = .identifier s :: Lexer.kinds rest := by
  rw [kinds_name h.word hr, ofWord_identifier h.notKeyword]

/-- A point before something else than a digit is a token of its own. -/
theorem kinds_point {cs : List Char} (h : Stops Char.isDigit cs) :
    kinds ('.' :: cs) = .dot :: kinds cs := by
  have hdigit : ¬ cs.head?.any Char.isDigit = true := by
    rw [Option.any_eq_true]
    rintro ⟨c, hc, htrue⟩
    rw [h c hc] at htrue
    cases htrue
  have hscan : Lexer.scanToken '.' cs = (.dot, cs) := if_neg hdigit
  rw [Lexer.kinds_cons _ rfl (by decide), hscan]

/-- A name does not start with a digit, so the point in front of it starts no number. -/
theorem intercalate_cons_stops {p : String} (parts : List String) (h : Identifier p)
    (rest : List Char) :
    Stops Char.isDigit ((".".intercalate (p :: parts)).toList ++ rest) := by
  obtain ⟨c, cs, hp, hc⟩ := h.word.start
  have hdigit : c.isDigit = false :=
    Bool.eq_false_iff.mpr (Lexer.not_isDigit_of_isNameStart hc)
  cases parts with
  | nil =>
    rw [String.intercalate_singleton, hp]
    exact .cons _ hdigit
  | cons q parts =>
    rw [String.intercalate_cons_cons, String.toList_append, String.toList_append, hp]
    exact .cons _ hdigit

/-- Identifiers joined by points are cut into themselves and the points. -/
theorem kinds_parts {parts : List String} (h : ∀ p ∈ parts, Identifier p) {rest : List Char}
    (hr : Delimited rest) :
    kinds ((".".intercalate parts).toList ++ rest) = spellParts parts (kinds rest) := by
  induction parts with
  | nil => rw [String.intercalate_nil]; rfl
  | cons p parts ih =>
    have hp := h p List.mem_cons_self
    cases parts with
    | nil => rw [String.intercalate_singleton, hp.kinds hr.stops]; rfl
    | cons q parts =>
      have hq := h q (List.mem_cons_of_mem p List.mem_cons_self)
      have ih := ih fun r hmem => h r (List.mem_cons_of_mem p hmem)
      -- the point ends the first part, and what follows the point is no digit
      have hsplit : (".".intercalate (p :: q :: parts)).toList ++ rest
          = p.toList ++ '.' :: ((".".intercalate (q :: parts)).toList ++ rest) := by
        simp [String.intercalate_cons_cons]
      rw [hsplit, hp.kinds (.cons _ rfl), kinds_point (intercalate_cons_stops parts hq rest), ih]
      rfl

/-- The parts of a name are found again, since no part holds a point. -/
theorem spellName_intercalate {parts : List String} (hne : parts ≠ [])
    (h : ∀ p ∈ parts, Identifier p) (rest : List TokenKind) :
    spellName (".".intercalate parts) rest = spellParts parts rest := by
  have hpoint : ∀ cs ∈ parts.map String.toList, '.' ∉ cs := by
    intro cs hcs hmem
    obtain ⟨p, hp, rfl⟩ := List.mem_map.mp hcs
    exact absurd ((h p hp).word.parts '.' hmem) (by decide)
  have hsplit := List.splitOn_intercalate '.' hpoint (by simpa using hne)
  have hsep : ".".toList = ['.'] := rfl
  rw [spellName, String.toList_intercalate, hsep, hsplit, List.map_map,
    List.map_congr_left (g := id), List.map_id]
  exact fun p _ => String.ofList_toList

theorem kinds_literal {value : Literal} (h : WellFormed (.literal value)) {rest : List Char}
    (hr : Delimited rest) :
    kinds ((printLiteral value).toList ++ rest) = value.token :: kinds rest := by
  cases h with
  | int hi hfits => exact Lexer.kinds_int hi hfits hr
  | float hx => exact Lexer.kinds_float hx hr
  | str s => exact Lexer.kinds_quoteText s rest
  | bool b =>
    cases b
    · exact kinds_name (s := "False") (word_of_decide rfl rfl (by decide)) hr.stops
    · exact kinds_name (s := "True") (word_of_decide rfl rfl (by decide)) hr.stops
  | none => exact kinds_name (s := "None") (word_of_decide rfl rfl (by decide)) hr.stops

/-- The text of a looked up source is cut into its four tokens. -/
theorem kinds_lookup (key : String) (rest : List Char) :
    kinds ((lookupText key).toList ++ rest)
      = .identifier sourcesName :: .leftBracket :: .string key :: .rightBracket :: kinds rest := by
  have hword : Word sourcesName.toList := word_of_decide rfl rfl (by decide)
  have htext : (lookupText key).toList ++ rest
      = sourcesName.toList ++ '[' :: ((quoteText key).toList ++ ']' :: rest) := by
    simp [lookupText]
  rw [htext, kinds_name hword (.cons _ rfl), Lexer.kinds_leftBracket, Lexer.kinds_quoteText,
    Lexer.kinds_rightBracket]
  rfl

/-- The name of a function and its parenthesis are two tokens. -/
theorem kinds_builtin (f : Builtin) (rest : List Char) :
    kinds (f.name.toList ++ '(' :: rest) = .identifier f.name :: .leftParen :: kinds rest := by
  have hword : Word f.name.toList := by
    cases f
    all_goals exact word_of_decide rfl rfl (by decide)
  rw [kinds_name hword (.cons _ rfl), Lexer.kinds_leftParen]
  cases f
  all_goals rfl

/-- A sign or `not` is cut off as its token, whatever follows: the text of `not` ends in a
blank. -/
theorem kinds_unaryOp (op : UnaryOp) (cs : List Char) :
    kinds ((printUnaryOp op).toList ++ cs) = op.token :: kinds cs := by
  cases op
  case neg => exact Lexer.kinds_cons _ rfl (by decide)
  case pos => exact Lexer.kinds_cons _ rfl (by decide)
  case not =>
    rw [← Lexer.kinds_space cs]
    exact kinds_name (s := "not") (word_of_decide rfl rfl (by decide)) (.cons _ rfl)

theorem delimited_space (cs : List Char) : Delimited (' ' :: cs) :=
  delimited_cons cs rfl (by decide)

theorem delimited_rightParen (cs : List Char) : Delimited (')' :: cs) :=
  delimited_cons cs rfl (by decide)

theorem delimited_comma (cs : List Char) : Delimited (',' :: cs) :=
  delimited_cons cs rfl (by decide)

/-- The text of an expression is its tokens, whatever delimited text follows. -/
def Spelled (e : Expr) : Prop :=
  ∀ rest, Delimited rest → kinds ((print e).toList ++ rest) = spell e (kinds rest)

/-- After an operand of a comparison stands a blank or the parenthesis. -/
theorem delimited_links (links : List (CompareOp × Expr)) (rest : List Char) :
    Delimited ((printLinks links).toList ++ ')' :: rest) := by
  cases links with
  | nil => exact delimited_rightParen rest
  | cons link links =>
    have htext : ∃ cs, (printLinks (link :: links)).toList ++ ')' :: rest = ' ' :: cs := by
      simp [printLinks]
    obtain ⟨cs, hcs⟩ := htext
    rw [hcs]
    exact delimited_space cs

/-- The links of a comparison are cut into their operators and operands. -/
theorem kinds_links {links : List (CompareOp × Expr)} (h : ∀ link ∈ links, Spelled link.2)
    (rest : List Char) : kinds ((printLinks links).toList ++ ')' :: rest)
      = spellLinks links (.rightParen :: kinds rest) := by
  induction links with
  | nil => exact Lexer.kinds_rightParen rest
  | cons link links ih =>
    obtain ⟨op, e⟩ := link
    have he : Spelled e := h _ List.mem_cons_self
    have ih := ih fun link hmem => h link (List.mem_cons_of_mem _ hmem)
    have htext : (printLinks ((op, e) :: links)).toList ++ ')' :: rest
        = ' ' :: (op.symbol.toList ++ ' ' ::
          ((print e).toList ++ ((printLinks links).toList ++ ')' :: rest))) := by
      simp [printLinks]
    rw [htext, Lexer.kinds_space, kinds_comparison, he _ (delimited_links links rest), ih]
    rfl

/-- After an argument stands a comma or the parenthesis. -/
theorem delimited_moreArgs (args : List Expr) (rest : List Char) :
    Delimited ((printMoreArgs args).toList ++ ')' :: rest) := by
  cases args with
  | nil => exact delimited_rightParen rest
  | cons e args =>
    have htext : ∃ cs, (printMoreArgs (e :: args)).toList ++ ')' :: rest = ',' :: cs := by
      simp [printMoreArgs]
    obtain ⟨cs, hcs⟩ := htext
    rw [hcs]
    exact delimited_comma cs

/-- Further arguments are cut into themselves and the commas before them. -/
theorem kinds_moreArgs {args : List Expr} (h : ∀ e ∈ args, Spelled e) (rest : List Char) :
    kinds ((printMoreArgs args).toList ++ ')' :: rest)
      = spellMoreArgs args (.rightParen :: kinds rest) := by
  induction args with
  | nil => exact Lexer.kinds_rightParen rest
  | cons e args ih =>
    have he : Spelled e := h e List.mem_cons_self
    have ih := ih fun e hmem => h e (List.mem_cons_of_mem _ hmem)
    have htext : (printMoreArgs (e :: args)).toList ++ ')' :: rest
        = ',' :: ' ' :: ((print e).toList ++ ((printMoreArgs args).toList ++ ')' :: rest)) := by
      simp [printMoreArgs]
    rw [htext, Lexer.kinds_comma, Lexer.kinds_space, he _ (delimited_moreArgs args rest), ih]
    rfl

/-- All arguments are cut into themselves and the commas between them. -/
theorem kinds_args {args : List Expr} (h : ∀ e ∈ args, Spelled e) (rest : List Char) :
    kinds ((printArgs args).toList ++ ')' :: rest)
      = spellArgs args (.rightParen :: kinds rest) := by
  cases args with
  | nil => exact Lexer.kinds_rightParen rest
  | cons e args =>
    have he : Spelled e := h e List.mem_cons_self
    have htext : (printArgs (e :: args)).toList ++ ')' :: rest
        = (print e).toList ++ ((printMoreArgs args).toList ++ ')' :: rest) := by
      simp [printArgs]
    rw [htext, he _ (delimited_moreArgs args rest),
      kinds_moreArgs fun e hmem => h e (List.mem_cons_of_mem _ hmem)]
    rfl

/-- The lexer finds the tokens of an expression in its canonical text. -/
theorem kinds_print {e : Expr} (h : WellFormed e) : Spelled e := by
  -- every part of the text is followed by a sign, a blank or the delimited rest
  induction h with
  | int hi hfits => exact fun _ => kinds_literal (.int hi hfits)
  | float hx => exact fun _ => kinds_literal (.float hx)
  | str s => exact fun _ => kinds_literal (.str s)
  | bool b => exact fun _ => kinds_literal (.bool b)
  | none => exact fun _ => kinds_literal .none
  | name hne hparts =>
    intro rest hr
    rw [print, kinds_parts hparts hr, spell, spellName_intercalate hne hparts]
  | source key => exact fun rest _ => kinds_lookup key rest
  | @unary op e _ ih =>
    intro rest _
    have htext : (print (.unary op e)).toList ++ rest
        = '(' :: ((printUnaryOp op).toList ++ ((print e).toList ++ ')' :: rest)) := by
      simp [print]
    rw [htext, Lexer.kinds_leftParen, kinds_unaryOp, ih _ (delimited_rightParen _),
      Lexer.kinds_rightParen, spell]
  | @binary op l r _ _ ihl ihr =>
    intro rest _
    have htext : (print (.binary op l r)).toList ++ rest
        = '(' :: ((print l).toList ++ ' ' ::
          (op.symbol.toList ++ ' ' :: ((print r).toList ++ ')' :: rest))) := by
      simp [print]
    rw [htext, Lexer.kinds_leftParen, ihl _ (delimited_space _), Lexer.kinds_space,
      kinds_operator, ihr _ (delimited_rightParen _), Lexer.kinds_rightParen, spell]
  | @chained first links _ _ _ ihf ihl =>
    intro rest _
    have htext : (print (.chained first links)).toList ++ rest
        = '(' :: ((print first).toList ++ ((printLinks links).toList ++ ')' :: rest)) := by
      simp [print]
    rw [htext, Lexer.kinds_leftParen, ihf _ (delimited_links links rest), kinds_links ihl, spell]
  | @boolean op l r _ _ ihl ihr =>
    intro rest _
    have htext : (print (.boolean op l r)).toList ++ rest
        = '(' :: ((print l).toList ++ ' ' ::
          (op.word.toList ++ ' ' :: ((print r).toList ++ ')' :: rest))) := by
      simp [print]
    rw [htext, Lexer.kinds_leftParen, ihl _ (delimited_space _), Lexer.kinds_space,
      kinds_boolOp, ihr _ (delimited_rightParen _), Lexer.kinds_rightParen, spell]
  | @conditional body test orelse _ _ _ ihb iht iho =>
    intro rest _
    have hif : Word "if".toList := word_of_decide rfl rfl (by decide)
    have helse : Word "else".toList := word_of_decide rfl rfl (by decide)
    have htext : (print (.conditional body test orelse)).toList ++ rest
        = '(' :: ((print body).toList ++ ' ' :: ("if".toList ++ ' ' ::
          ((print test).toList ++ ' ' :: ("else".toList ++ ' ' ::
          ((print orelse).toList ++ ')' :: rest))))) := by
      simp [print]
    rw [htext, Lexer.kinds_leftParen, ihb _ (delimited_space _), Lexer.kinds_space,
      kinds_name hif (.cons _ rfl), Lexer.kinds_space, iht _ (delimited_space _),
      Lexer.kinds_space, kinds_name helse (.cons _ rfl), Lexer.kinds_space,
      iho _ (delimited_rightParen _), Lexer.kinds_rightParen, spell]
    rfl
  | @call f args _ _ ih =>
    intro rest _
    have htext : (print (.call f args)).toList ++ rest
        = f.name.toList ++ '(' :: ((printArgs args).toList ++ ')' :: rest) := by
      simp [print]
    rw [htext, kinds_builtin, kinds_args ih, spell]

end Expr

end RowSignals
