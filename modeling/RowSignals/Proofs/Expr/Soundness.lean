import RowSignals.Proofs.Expr.Grammar

/-!
# Accepted tokens are derivable

Whatever the parser returns has a derivation, and the derivation nests no deeper than the
limit allows.

The proof is one induction on fuel. `Sound fuel` collects what the ten functions of the
parser promise with so much fuel, and each function has a lemma that gives its part of
`Sound (fuel + 1)` from `Sound fuel`.
-/

namespace RowSignals.Expr

/-! ## Tables of the parser against those of the grammar -/

theorem literal?_eq_some_iff {t : TokenKind} {value : Literal} :
    literal? t = some value ↔ Constant t value := by
  constructor
  · intro h
    cases t <;> simp only [literal?, Option.some.injEq, reduceCtorEq] at h <;>
      subst h <;> constructor
  · rintro (_ | _ | _) <;> rfl

theorem signOp?_eq_some_iff {t : TokenKind} {op : UnaryOp} :
    signOp? t = some op ↔ Signs t op := by
  constructor
  · intro h
    cases t <;> simp only [signOp?, Option.some.injEq, reduceCtorEq] at h <;>
      subst h <;> constructor
  · rintro (_ | _) <;> rfl

theorem compareOp?_eq_some_iff {t : TokenKind} {op : CompareOp} :
    compareOp? t = some op ↔ Compares t op := by
  constructor
  · intro h
    cases t <;> simp only [compareOp?, Option.some.injEq, reduceCtorEq] at h <;>
      subst h <;> constructor
  · rintro (_ | _) <;> rfl

/-- An operator of a level is one of the grammar, and it builds the same tree. -/
theorem joins_of_joiner? {c : Chain} {t : TokenKind} {joiner : Joiner}
    (h : c.joiner? t = some joiner) : Joins c t joiner.join := by
  cases c <;> cases t <;> simp only [Chain.joiner?, Option.some.injEq, reduceCtorEq] at h <;>
    subst h <;> constructor

theorem Joins.joiner? {c : Chain} {t : TokenKind} {join : Expr → Expr → Expr}
    (h : Joins c t join) : ∃ joiner, c.joiner? t = some joiner ∧ joiner.join = join := by
  cases h <;> exact ⟨_, rfl, rfl⟩

theorem ofName?_eq_some_iff {word : String} {f : Builtin} :
    Builtin.ofName? word = some f ↔ word = f.name := by
  constructor
  · intro h
    have hname := List.find?_some (p := fun g : Builtin => g.name == word) h
    exact (eq_of_beq hname).symm
  · rintro rfl
    cases f <;> rfl

/-- A function accepts as many arguments as it may take. -/
theorem accepts_iff {f : Builtin} {count : Nat} : f.accepts count = true ↔ InArity f count := by
  simp only [Builtin.accepts, InArity, Bool.and_eq_true, decide_eq_true_eq, Option.all_eq_true,
    Option.mem_def]

/-! ## Levels -/

/-- Some `n` for which `Q` holds fits between `depth` and the limit. -/
def Fits (depth : Nat) (Q : Nat → Prop) : Prop :=
  ∃ n, Q n ∧ depth + n ≤ maxDepth

theorem enter_eq_ok {depth deeper : Nat} {ts : List TokenKind}
    (h : enter depth ts = .ok deeper) : deeper = depth + 1 ∧ depth + 1 ≤ maxDepth := by
  unfold enter at h
  split at h
  · cases h
  · cases h
    exact ⟨rfl, by omega⟩

/-- What the functions of the parser promise with so much fuel. -/
structure Sound (fuel : Nat) : Prop where
  expression : ∀ {depth ts e rest}, depth ≤ maxDepth →
    parseExpr fuel depth ts = .ok (e, rest) →
    Fits depth fun n => Derives .expression n ts e rest
  chain : ∀ {c depth ts e rest}, depth ≤ maxDepth →
    parseChain fuel c depth ts = .ok (e, rest) →
    Fits depth fun n => Derives (.chain c) n ts e rest
  operand : ∀ {c depth ts e rest}, depth ≤ maxDepth →
    parseOperand fuel c depth ts = .ok (e, rest) →
    Fits depth fun n => Derives (.operand c) n ts e rest
  links : ∀ {c depth left ts e rest}, depth ≤ maxDepth →
    parseLinks fuel c depth left ts = .ok (e, rest) →
    Fits depth fun n => Links c n left ts e rest
  negation : ∀ {depth ts e rest}, depth ≤ maxDepth →
    parseNegation fuel depth ts = .ok (e, rest) →
    Fits depth fun n => Derives .negation n ts e rest
  comparisons : ∀ {depth ts links rest}, depth ≤ maxDepth →
    parseComparisons fuel depth ts = .ok (links, rest) →
    Fits depth fun n => Comparisons n ts links rest
  factor : ∀ {depth ts e rest}, depth ≤ maxDepth →
    parseFactor fuel depth ts = .ok (e, rest) →
    Fits depth fun n => Derives .factor n ts e rest
  power : ∀ {depth ts e rest}, depth ≤ maxDepth →
    parsePower fuel depth ts = .ok (e, rest) →
    Fits depth fun n => Derives .power n ts e rest
  primary : ∀ {depth ts e rest}, depth ≤ maxDepth →
    parsePrimary fuel depth ts = .ok (e, rest) →
    Fits depth fun n => Derives .primary n ts e rest
  arguments : ∀ {depth ts args rest}, depth ≤ maxDepth →
    parseArguments fuel depth ts = .ok (args, rest) →
    Fits depth fun n => Arguments n ts args rest

section
variable {fuel depth : Nat} {ts rest : List TokenKind} {e : Expr}

/-- The step of expressions. A conditional expression has the levels of its body, its test and
the other branch, and one more. -/
theorem parseExpr_sound (ih : Sound fuel) (h : parseExpr (fuel + 1) depth ts = .ok (e, rest)) :
    Fits depth fun n => Derives .expression n ts e rest := by
  simp only [parseExpr] at h
  split at h
  · cases h
  · rename_i deeper hdeeper
    obtain ⟨rfl, hlimit⟩ := enter_eq_ok hdeeper
    split at h
    · cases h
    · -- the body of a conditional
      rename_i body us hbody
      obtain ⟨n, hb, hn⟩ := ih.chain hlimit hbody
      split at h
      · cases h
      · rename_i test vs htest
        obtain ⟨m, ht, hm⟩ := ih.chain hlimit htest
        split at h
        · cases h
        · rename_i horelse
          cases h
          obtain ⟨k, ho, hk⟩ := ih.expression hlimit horelse
          exact ⟨max n (max m k) + 1, .conditional hb ht ho, by omega⟩
      · cases h
    · -- no conditional
      rename_i hbody
      cases h
      obtain ⟨n, hb, hn⟩ := ih.chain hlimit hbody
      exact ⟨n + 1, .plain hb, by omega⟩

/-- The step of chains: the first operand, then its links. -/
theorem parseChain_sound (ih : Sound fuel) {c : Chain} (hd : depth ≤ maxDepth)
    (h : parseChain (fuel + 1) c depth ts = .ok (e, rest)) :
    Fits depth fun n => Derives (.chain c) n ts e rest := by
  simp only [parseChain] at h
  split at h
  · cases h
  · rename_i first us hfirst
    obtain ⟨n, hf, hn⟩ := ih.operand hd hfirst
    obtain ⟨m, hl, hm⟩ := ih.links hd h
    exact ⟨max n m, .chain hf hl, by omega⟩

theorem parseOperand_sound (ih : Sound fuel) {c : Chain} (hd : depth ≤ maxDepth)
    (h : parseOperand (fuel + 1) c depth ts = .ok (e, rest)) :
    Fits depth fun n => Derives (.operand c) n ts e rest := by
  cases c with
  | or => exact ih.chain hd h
  | and => exact ih.negation hd h
  | arith => exact ih.chain hd h
  | term => exact ih.factor hd h

/-- The step of links. The tree of what came before is the left side of the next operator. -/
theorem parseLinks_sound (ih : Sound fuel) {c : Chain} {left : Expr} (hd : depth ≤ maxDepth)
    (h : parseLinks (fuel + 1) c depth left ts = .ok (e, rest)) :
    Fits depth fun n => Links c n left ts e rest := by
  simp only [parseLinks] at h
  split at h
  · cases h
    exact ⟨0, .done, hd⟩
  · rename_i t us
    split at h
    · -- the token belongs to no link of this chain
      cases h
      exact ⟨0, .done, hd⟩
    · rename_i joiner hjoiner
      split at h
      · cases h
      · rename_i deeper hdeeper
        obtain ⟨rfl, hlimit⟩ := enter_eq_ok hdeeper
        split at h
        · cases h
        · rename_i right vs hright
          obtain ⟨n, hr, hn⟩ := ih.operand hlimit hright
          obtain ⟨m, hl, hm⟩ := ih.links hlimit h
          exact ⟨max n m + 1, .link (joins_of_joiner? hjoiner) hr hl, by omega⟩

theorem parseNegation_sound (ih : Sound fuel) (hd : depth ≤ maxDepth)
    (h : parseNegation (fuel + 1) depth ts = .ok (e, rest)) :
    Fits depth fun n => Derives .negation n ts e rest := by
  simp only [parseNegation] at h
  split at h
  · rename_i us
    split at h
    · cases h
    · rename_i deeper hdeeper
      obtain ⟨rfl, hlimit⟩ := enter_eq_ok hdeeper
      split at h
      · cases h
      · rename_i operand vs hoperand
        cases h
        obtain ⟨n, ho, hn⟩ := ih.negation hlimit hoperand
        exact ⟨n + 1, .not ho, by omega⟩
  · split at h
    · cases h
    · rename_i first us hfirst
      obtain ⟨n, hf, hn⟩ := ih.chain hd hfirst
      split at h
      · cases h
      · -- no comparison follows, and then the list of links is empty
        rename_i hnone
        cases h
        obtain ⟨m, hl, hm⟩ := ih.comparisons hd hnone
        cases hl
        exact ⟨n, .comparison (.single hf), hn⟩
      · rename_i link links vs hlinks
        cases h
        obtain ⟨m, hl, hm⟩ := ih.comparisons hd hlinks
        exact ⟨max n m, .comparison (.compare hf hl), by omega⟩

/-- The step of comparisons, whose operands are kept in a list. -/
theorem parseComparisons_sound (ih : Sound fuel) {links : List (CompareOp × Expr)}
    (hd : depth ≤ maxDepth)
    (h : parseComparisons (fuel + 1) depth ts = .ok (links, rest)) :
    Fits depth fun n => Comparisons n ts links rest := by
  simp only [parseComparisons] at h
  split at h
  · cases h
    exact ⟨0, .done, hd⟩
  · rename_i t us
    split at h
    · cases h
      exact ⟨0, .done, hd⟩
    · rename_i op hop
      split at h
      · cases h
      · rename_i operand vs hoperand
        split at h
        · cases h
        · rename_i more ws hmore
          cases h
          obtain ⟨n, ho, hn⟩ := ih.chain hd hoperand
          obtain ⟨m, hl, hm⟩ := ih.comparisons hd hmore
          exact ⟨max n m, .link (compareOp?_eq_some_iff.mp hop) ho hl, by omega⟩

theorem parseFactor_sound (ih : Sound fuel) (hd : depth ≤ maxDepth)
    (h : parseFactor (fuel + 1) depth ts = .ok (e, rest)) :
    Fits depth fun n => Derives .factor n ts e rest := by
  have unsigned {ts : List TokenKind} (h : parsePower fuel depth ts = .ok (e, rest)) :
      Fits depth fun n => Derives .factor n ts e rest := by
    obtain ⟨n, hp, hn⟩ := ih.power hd h
    exact ⟨n, .unsigned hp, hn⟩
  simp only [parseFactor] at h
  split at h
  · exact unsigned h
  · rename_i t us
    split at h
    · exact unsigned h
    · rename_i op hop
      split at h
      · cases h
      · rename_i deeper hdeeper
        obtain ⟨rfl, hlimit⟩ := enter_eq_ok hdeeper
        split at h
        · cases h
        · rename_i operand vs hoperand
          cases h
          obtain ⟨n, ho, hn⟩ := ih.factor hlimit hoperand
          exact ⟨n + 1, .sign (signOp?_eq_some_iff.mp hop) ho, by omega⟩

/-- The step of powers: the exponent is a factor, so that it may have a sign. -/
theorem parsePower_sound (ih : Sound fuel) (hd : depth ≤ maxDepth)
    (h : parsePower (fuel + 1) depth ts = .ok (e, rest)) :
    Fits depth fun n => Derives .power n ts e rest := by
  simp only [parsePower] at h
  split at h
  · cases h
  · rename_i base us hbase
    obtain ⟨n, hb, hn⟩ := ih.primary hd hbase
    split at h
    · cases h
    · rename_i deeper hdeeper
      obtain ⟨rfl, hlimit⟩ := enter_eq_ok hdeeper
      split at h
      · cases h
      · rename_i exponent vs hexponent
        cases h
        obtain ⟨m, he, hm⟩ := ih.factor hlimit hexponent
        exact ⟨max n (m + 1), .pow hb he, by omega⟩
  · rename_i hbase
    cases h
    obtain ⟨n, hb, hn⟩ := ih.primary hd hbase
    exact ⟨n, .base hb, hn⟩

/-- The parts of a name are joined as the grammar joins them. -/
theorem parseDotted_sound {name dotted : String} :
    ∀ {ts : List TokenKind}, parseDotted name ts = .ok (dotted, rest) →
      Dotted name ts dotted rest := by
  intro ts h
  fun_induction parseDotted name ts with
  | case1 name part ts ih => exact .part (ih h)
  | case2 => cases h
  | case3 =>
    cases h
    exact .done

theorem parseLookup_sound (h : parseLookup ts = .ok (e, rest)) :
    ∃ key, ts = .string key :: .rightBracket :: rest ∧ e = .source key := by
  unfold parseLookup at h
  split at h
  · rename_i key us
    cases h
    exact ⟨key, rfl, rfl⟩
  · cases h
  · cases h

/-- A word that is no call is the name that it starts. -/
theorem parseBareName_sound {word : String} (h : parseBareName word ts = .ok (e, rest)) :
    ∃ dotted, Dotted word ts dotted rest ∧ e = .name dotted := by
  unfold parseBareName at h
  split at h
  · cases h
  · cases h
  · cases h
  · rename_i hdotted
    cases h
    exact ⟨_, parseDotted_sound hdotted, rfl⟩

/-- The step of primaries. An opening parenthesis after the name of a function makes it a call,
and an opening bracket after the word for sources a look-up. -/
theorem parsePrimary_sound (ih : Sound fuel) (hd : depth ≤ maxDepth)
    (h : parsePrimary (fuel + 1) depth ts = .ok (e, rest)) :
    Fits depth fun n => Derives .primary n ts e rest := by
  have bareName {word : String} {ts : List TokenKind}
      (h : parseBareName word ts = .ok (e, rest)) :
      Fits depth fun n => Derives .primary n (.identifier word :: ts) e rest := by
    obtain ⟨dotted, hdotted, rfl⟩ := parseBareName_sound h
    exact ⟨0, .name hdotted, hd⟩
  simp only [parsePrimary] at h
  split at h
  · cases h
  · -- parentheses
    split at h
    · cases h
    · rename_i inner us hinner
      cases h
      obtain ⟨n, hi, hn⟩ := ih.expression hd hinner
      exact ⟨n, .parens hi, hn⟩
    · cases h
  · -- a call
    rename_i word us
    split at h
    · cases h
    · rename_i f hf
      obtain rfl := ofName?_eq_some_iff.mp hf
      split at h
      · cases h
      · rename_i args vs hargs
        split at h
        · rename_i harity
          cases h
          obtain ⟨n, ha, hn⟩ := ih.arguments hd hargs
          exact ⟨n, .call ha (accepts_iff.mp harity), hn⟩
        · cases h
      · cases h
  · -- a name before a bracket: the look-up of a source or a bare name
    rename_i word us
    split at h
    · rename_i hword
      subst hword
      obtain ⟨key, rfl, rfl⟩ := parseLookup_sound h
      exact ⟨0, .lookup, hd⟩
    · exact bareName h
  · exact bareName h
  · -- a constant
    split at h
    · rename_i value hvalue
      cases h
      exact ⟨0, .constant (literal?_eq_some_iff.mp hvalue), hd⟩
    · cases h

theorem parseArguments_sound (ih : Sound fuel) {args : List Expr} (hd : depth ≤ maxDepth)
    (h : parseArguments (fuel + 1) depth ts = .ok (args, rest)) :
    Fits depth fun n => Arguments n ts args rest := by
  simp only [parseArguments] at h
  split at h
  · cases h
    exact ⟨0, .done, hd⟩
  · cases h
    exact ⟨0, .done, hd⟩
  · split at h
    · cases h
    · rename_i arg us harg
      obtain ⟨n, ha, hn⟩ := ih.expression hd harg
      -- after a comma come more arguments, or none if it is a trailing one
      split at h
      · cases h
      · rename_i more vs hmore
        cases h
        obtain ⟨m, hm, hfit⟩ := ih.arguments hd hmore
        exact ⟨max n m, .more ha hm, by omega⟩
    · rename_i arg us _ harg
      cases h
      obtain ⟨n, ha, hn⟩ := ih.expression hd harg
      exact ⟨n, .last ha, hn⟩

end

/-- Without fuel nothing is returned, so that nothing is promised. -/
theorem Sound.zero : Sound 0 where
  expression _ h := nomatch h
  chain _ h := nomatch h
  operand _ h := nomatch h
  links _ h := nomatch h
  negation _ h := nomatch h
  comparisons _ h := nomatch h
  factor _ h := nomatch h
  power _ h := nomatch h
  primary _ h := nomatch h
  arguments _ h := nomatch h

theorem Sound.succ {fuel : Nat} (ih : Sound fuel) : Sound (fuel + 1) where
  expression _ h := parseExpr_sound ih h
  chain hd h := parseChain_sound ih hd h
  operand hd h := parseOperand_sound ih hd h
  links hd h := parseLinks_sound ih hd h
  negation hd h := parseNegation_sound ih hd h
  comparisons hd h := parseComparisons_sound ih hd h
  factor hd h := parseFactor_sound ih hd h
  power hd h := parsePower_sound ih hd h
  primary hd h := parsePrimary_sound ih hd h
  arguments hd h := parseArguments_sound ih hd h

/-- The parser is sound with any fuel. -/
theorem sound (fuel : Nat) : Sound fuel := by
  induction fuel with
  | zero => exact .zero
  | succ fuel ih => exact ih.succ

end RowSignals.Expr
