import Mathlib
import RowSignals.Expr.Parser

/-!
# The grammar of expressions

The grammar that the parser promises, stated as derivations and without the parser. A
derivation reads a phrase off the front of a list of tokens; the tokens after the phrase are
kept beside it, so that a whole list is a phrase when nothing is left.

* `Constant`, `Signs`, `Compares`, `Joins`: which tokens are constants and operators, and the
  trees that operators build.
* `Phrase`: the nonterminals.
* `Derives`: the productions. A derivation counts the levels that its phrase nests
  (parentheses, conditionals, operators in front, exponents and links of chains).
* `Derivable`: whole lists of tokens that are an expression.
* `Derives.admissible`: reserved words, assignments and invalid tokens are in no phrase.
-/

namespace RowSignals.Expr

/-! ## Tokens that are constants and operators -/

/-- The tokens that are constants. -/
inductive Constant : TokenKind → Literal → Prop
  | int (n : Int) : Constant (.int n) (.int n)
  | float (x : Float) : Constant (.float x) (.float x)
  | string (s : String) : Constant (.string s) (.str s)
  | trueWord : Constant .trueWord (.bool true)
  | falseWord : Constant .falseWord (.bool false)
  | noneWord : Constant .noneWord .none

/-- The signs in front of a factor. -/
inductive Signs : TokenKind → UnaryOp → Prop
  | minus : Signs .minus .neg
  | plus : Signs .plus .pos

/-- The tokens that compare. -/
inductive Compares : TokenKind → CompareOp → Prop
  | eq : Compares .eq .eq
  | ne : Compares .ne .ne
  | lt : Compares .lt .lt
  | le : Compares .le .le
  | gt : Compares .gt .gt
  | ge : Compares .ge .ge

/-- The operators of the chains of each level, with the tree that each builds. -/
inductive Joins : Chain → TokenKind → (Expr → Expr → Expr) → Prop
  | or : Joins .or .orWord (.boolean .or)
  | and : Joins .and .andWord (.boolean .and)
  | add : Joins .arith .plus (.binary .add)
  | sub : Joins .arith .minus (.binary .sub)
  | mul : Joins .term .star (.binary .mul)
  | div : Joins .term .slash (.binary .div)
  | floorDiv : Joins .term .doubleSlash (.binary .floorDiv)
  | mod : Joins .term .percent (.binary .mod)

/-- Whether a function takes so many arguments: not fewer than its least number, and not more
than its greatest if it has one. -/
def InArity (f : Builtin) (count : Nat) : Prop :=
  f.arity.1 ≤ count ∧ ∀ high ∈ f.arity.2, count ≤ high

/-! ## Productions -/

/-- The nonterminals of the grammar. -/
inductive Phrase where
  | expression
  | chain (level : Chain)
  | negation
  | comparison
  | factor
  | power
  | primary

/-- The operands of the chains of a level. -/
def Phrase.operand : Chain → Phrase
  | .or => .chain .and
  | .and => .negation
  | .arith => .chain .term
  | .term => .factor

/-- `Dotted name ts dotted rest`: the parts of a dotted name after `name`, all of them joined
to `dotted`. -/
inductive Dotted : String → List TokenKind → String → List TokenKind → Prop
  | done {name : String} {rest : List TokenKind} : Dotted name rest name rest
  | part {name part dotted : String} {ts rest : List TokenKind} :
    Dotted (name ++ "." ++ part) ts dotted rest →
    Dotted name (.dot :: .identifier part :: ts) dotted rest

mutual

/-- `Derives p n ts e rest`: the tokens `ts` are a phrase `p` with the tree `e` and then
`rest`, and the phrase nests `n` levels. -/
inductive Derives : Phrase → Nat → List TokenKind → Expr → List TokenKind → Prop
  | plain {n : Nat} {ts rest : List TokenKind} {e : Expr} :
    Derives (.chain .or) n ts e rest → Derives .expression (n + 1) ts e rest
  | conditional {n m k : Nat} {ts us vs rest : List TokenKind} {body test orelse : Expr} :
    Derives (.chain .or) n ts body (.ifWord :: us) →
    Derives (.chain .or) m us test (.elseWord :: vs) →
    Derives .expression k vs orelse rest →
    Derives .expression (max n (max m k) + 1) ts (.conditional body test orelse) rest
  | chain {c : Chain} {n m : Nat} {ts us rest : List TokenKind} {first e : Expr} :
    Derives (.operand c) n ts first us → Links c m first us e rest →
    Derives (.chain c) (max n m) ts e rest
  | not {n : Nat} {ts rest : List TokenKind} {e : Expr} :
    Derives .negation n ts e rest →
    Derives .negation (n + 1) (.notWord :: ts) (.unary .not e) rest
  | comparison {n : Nat} {ts rest : List TokenKind} {e : Expr} :
    Derives .comparison n ts e rest → Derives .negation n ts e rest
  | single {n : Nat} {ts rest : List TokenKind} {e : Expr} :
    Derives (.chain .arith) n ts e rest → Derives .comparison n ts e rest
  | compare {n m : Nat} {ts us rest : List TokenKind} {first : Expr}
    {link : CompareOp × Expr} {links : List (CompareOp × Expr)} :
    Derives (.chain .arith) n ts first us → Comparisons m us (link :: links) rest →
    Derives .comparison (max n m) ts (.chained first (link :: links)) rest
  | sign {t : TokenKind} {op : UnaryOp} {n : Nat} {ts rest : List TokenKind} {e : Expr} :
    Signs t op → Derives .factor n ts e rest →
    Derives .factor (n + 1) (t :: ts) (.unary op e) rest
  | unsigned {n : Nat} {ts rest : List TokenKind} {e : Expr} :
    Derives .power n ts e rest → Derives .factor n ts e rest
  | base {n : Nat} {ts rest : List TokenKind} {e : Expr} :
    Derives .primary n ts e rest → Derives .power n ts e rest
  | pow {n m : Nat} {ts us rest : List TokenKind} {base exponent : Expr} :
    Derives .primary n ts base (.doubleStar :: us) → Derives .factor m us exponent rest →
    Derives .power (max n (m + 1)) ts (.binary .pow base exponent) rest
  | constant {t : TokenKind} {value : Literal} {rest : List TokenKind} :
    Constant t value → Derives .primary 0 (t :: rest) (.literal value) rest
  | name {word dotted : String} {ts rest : List TokenKind} :
    Dotted word ts dotted rest → Derives .primary 0 (.identifier word :: ts) (.name dotted) rest
  | lookup {key : String} {rest : List TokenKind} :
    Derives .primary 0
      (.identifier sourcesName :: .leftBracket :: .string key :: .rightBracket :: rest)
      (.source key) rest
  | call {f : Builtin} {n : Nat} {ts rest : List TokenKind} {args : List Expr} :
    Arguments n ts args (.rightParen :: rest) → InArity f args.length →
    Derives .primary n (.identifier f.name :: .leftParen :: ts) (.call f args) rest
  | parens {n : Nat} {ts rest : List TokenKind} {e : Expr} :
    Derives .expression n ts e (.rightParen :: rest) →
    Derives .primary n (.leftParen :: ts) e rest

/-- `Links c n left ts e rest`: the links of a chain after the tree `left` of what stands
before them. The chain before a link is the left operand of its operator. -/
inductive Links : Chain → Nat → Expr → List TokenKind → Expr → List TokenKind → Prop
  | done {c : Chain} {left : Expr} {rest : List TokenKind} : Links c 0 left rest left rest
  | link {c : Chain} {t : TokenKind} {join : Expr → Expr → Expr} {n m : Nat}
    {ts us rest : List TokenKind} {left right e : Expr} :
    Joins c t join → Derives (.operand c) n ts right us →
    Links c m (join left right) us e rest →
    Links c (max n m + 1) left (t :: ts) e rest

/-- `Comparisons n ts links rest`: the links of a chain of comparisons. -/
inductive Comparisons : Nat → List TokenKind → List (CompareOp × Expr) → List TokenKind → Prop
  | done {rest : List TokenKind} : Comparisons 0 rest [] rest
  | link {t : TokenKind} {op : CompareOp} {n m : Nat} {ts us rest : List TokenKind}
    {e : Expr} {links : List (CompareOp × Expr)} :
    Compares t op → Derives (.chain .arith) n ts e us → Comparisons m us links rest →
    Comparisons (max n m) (t :: ts) ((op, e) :: links) rest

/-- `Arguments n ts args rest`: arguments with commas between them. A comma may follow the
last argument. -/
inductive Arguments : Nat → List TokenKind → List Expr → List TokenKind → Prop
  | done {rest : List TokenKind} : Arguments 0 rest [] rest
  | last {n : Nat} {ts rest : List TokenKind} {e : Expr} :
    Derives .expression n ts e rest → Arguments n ts [e] rest
  | more {n m : Nat} {ts us rest : List TokenKind} {e : Expr} {args : List Expr} :
    Derives .expression n ts e (.comma :: us) → Arguments m us args rest →
    Arguments (max n m) ts (e :: args) rest

end

/-- The tokens of a whole expression with the tree `e`. -/
def Derivable (ts : List TokenKind) (e : Expr) : Prop :=
  ∃ n, Derives .expression n ts e []

/-! ## What a phrase takes

A phrase takes at least one token, and only tokens that have a meaning. -/

/-- Tokens that can stand in an expression: no reserved word, no assignment, and nothing that
is no token. -/
def Admissible : TokenKind → Prop
  | .reserved _ | .assign | .invalid _ => False
  | _ => True

/-- `Spans ts rest`: `ts` are admissible tokens and then `rest`. -/
def Spans (ts rest : List TokenKind) : Prop :=
  ∃ used, ts = used ++ rest ∧ ∀ t ∈ used, Admissible t

theorem Spans.refl (ts : List TokenKind) : Spans ts ts :=
  ⟨[], rfl, fun _ h => nomatch h⟩

theorem Spans.cons {t : TokenKind} {ts rest : List TokenKind} (ht : Admissible t)
    (h : Spans ts rest) : Spans (t :: ts) rest := by
  obtain ⟨used, rfl, hused⟩ := h
  refine ⟨t :: used, rfl, ?_⟩
  intro u hu
  rcases List.mem_cons.mp hu with rfl | hu
  · exact ht
  · exact hused u hu

/-- A part and the part behind it are one part. -/
theorem Spans.trans {ts us rest : List TokenKind} (h₁ : Spans ts us) (h₂ : Spans us rest) :
    Spans ts rest := by
  obtain ⟨used₁, rfl, hused₁⟩ := h₁
  obtain ⟨used₂, rfl, hused₂⟩ := h₂
  refine ⟨used₁ ++ used₂, (List.append_assoc ..).symm, ?_⟩
  intro t ht
  rcases List.mem_append.mp ht with ht | ht
  · exact hused₁ t ht
  · exact hused₂ t ht

/-- What is left after a part is no longer than before. -/
theorem Spans.length_le {ts rest : List TokenKind} (h : Spans ts rest) :
    rest.length ≤ ts.length := by
  obtain ⟨used, rfl, -⟩ := h
  simp

/-- Constants are among the tokens that may stand in an expression. -/
theorem Constant.admissible {t : TokenKind} {value : Literal} (h : Constant t value) :
    Admissible t := by
  cases h <;> trivial

theorem Signs.admissible {t : TokenKind} {op : UnaryOp} (h : Signs t op) : Admissible t := by
  cases h <;> trivial

theorem Compares.admissible {t : TokenKind} {op : CompareOp} (h : Compares t op) :
    Admissible t := by
  cases h <;> trivial

theorem Joins.admissible {c : Chain} {t : TokenKind} {join : Expr → Expr → Expr}
    (h : Joins c t join) : Admissible t := by
  cases h <;> trivial

/-- A dotted name takes identifiers and points from the front of the list. -/
theorem Dotted.spans {name dotted : String} {ts rest : List TokenKind}
    (h : Dotted name ts dotted rest) : Spans ts rest := by
  induction h with
  | done => exact .refl _
  | part _ ih => exact .cons trivial (.cons trivial ih)

mutual

/-- A phrase is a span of admissible tokens. -/
theorem Derives.spans {p : Phrase} {n : Nat} {ts rest : List TokenKind} {e : Expr} :
    Derives p n ts e rest → Spans ts rest
  | .plain h => h.spans
  | .conditional hb ht ho =>
    hb.spans.trans (.cons trivial (ht.spans.trans (.cons trivial ho.spans)))
  | .chain hf hl => (Derives.spans hf).trans (Links.spans hl)
  | .not h => .cons trivial h.spans
  | .comparison h => h.spans
  | .single h => h.spans
  | .compare hf hl => hf.spans.trans hl.spans
  | .sign hs h => .cons hs.admissible h.spans
  | .unsigned h => h.spans
  | .base h => h.spans
  | .pow hb he => hb.spans.trans (.cons trivial he.spans)
  | .constant hc => .cons hc.admissible (.refl _)
  | .name hd => .cons trivial hd.spans
  | .lookup =>
    .cons trivial (.cons trivial (.cons trivial (.cons trivial (.refl _))))
  | .call ha _ =>
    .cons trivial (.cons trivial (ha.spans.trans (.cons trivial (.refl _))))
  | .parens h => .cons trivial (h.spans.trans (.cons trivial (.refl _)))

/-- Links take admissible tokens from the front of the list. -/
theorem Links.spans {c : Chain} {n : Nat} {left e : Expr} {ts rest : List TokenKind} :
    Links c n left ts e rest → Spans ts rest
  | .done => .refl _
  | .link hj hr hl => .cons hj.admissible (hr.spans.trans hl.spans)

/-- The links of a comparison take admissible tokens from the front of the list. -/
theorem Comparisons.spans {n : Nat} {ts rest : List TokenKind}
    {links : List (CompareOp × Expr)} : Comparisons n ts links rest → Spans ts rest
  | .done => .refl _
  | .link hc he hl => .cons hc.admissible (he.spans.trans hl.spans)

/-- Arguments and their commas are admissible tokens. -/
theorem Arguments.spans {n : Nat} {ts rest : List TokenKind} {args : List Expr} :
    Arguments n ts args rest → Spans ts rest
  | .done => .refl _
  | .last he => he.spans
  | .more he ha => he.spans.trans (.cons trivial ha.spans)

end

/-- A phrase takes at least one token. -/
theorem Derives.length_lt {p : Phrase} {n : Nat} {ts rest : List TokenKind} {e : Expr} :
    Derives p n ts e rest → rest.length < ts.length
  | .plain h => h.length_lt
  | .conditional hb ht ho => by
    -- `if` and `else` come on top of what the three phrases take
    have hbody := hb.length_lt
    have htest := ht.length_lt
    have horelse := ho.length_lt
    simp only [List.length_cons] at hbody htest
    omega
  | .chain hf hl => Nat.lt_of_le_of_lt hl.spans.length_le hf.length_lt
  | .not h => Nat.lt_succ_of_lt h.length_lt
  | .comparison h => h.length_lt
  | .single h => h.length_lt
  | .compare hf hl => Nat.lt_of_le_of_lt hl.spans.length_le hf.length_lt
  | .sign _ h => Nat.lt_succ_of_lt h.length_lt
  | .unsigned h => h.length_lt
  | .base h => h.length_lt
  | .pow hb he => by
    have hbase := hb.length_lt
    have hexponent := he.length_lt
    simp only [List.length_cons] at hbase
    omega
  | .constant _ => Nat.lt_succ_self _
  | .name hd => Nat.lt_succ_of_le hd.spans.length_le
  | .lookup => by
    simp only [List.length_cons]
    omega
  | .call ha _ => by
    have hargs := ha.spans.length_le
    simp only [List.length_cons] at hargs ⊢
    omega
  | .parens h => by
    have hinner := h.length_lt
    simp only [List.length_cons] at hinner ⊢
    omega

/-- Every token of an expression is admissible. -/
theorem Derivable.admissible {ts : List TokenKind} {e : Expr} (h : Derivable ts e) :
    ∀ t ∈ ts, Admissible t := by
  obtain ⟨n, hn⟩ := h
  obtain ⟨used, rfl, hused⟩ := hn.spans
  simpa using hused

end RowSignals.Expr
