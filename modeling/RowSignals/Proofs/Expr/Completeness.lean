import RowSignals.Proofs.Expr.Soundness

/-!
# Derivable tokens are accepted

A phrase that is followed by something that cannot continue it is read to its end, with the
tree of its derivation. The one thing that can keep the parser from it is the limit on
nesting, which is reached exactly when the derivation nests too many levels.

* `binding`, `Closes`: what can continue a phrase; `lead`: what can start one.
* `Settles`: the result for a phrase that nests so many levels.
* `complete`: the parser settles every phrase, by induction on fuel.
-/

namespace RowSignals.Expr

/-! ## What continues a phrase, and what starts one -/

/-- How tightly a token holds on to a phrase before it; 0 if it never does. -/
def binding : TokenKind → Nat
  | .ifWord => 1
  | .orWord => 2
  | .andWord => 3
  | .eq | .ne | .lt | .le | .gt | .ge => 5
  | .plus | .minus => 6
  | .star | .slash | .doubleSlash | .percent => 7
  | .doubleStar => 9
  | .dot | .leftParen | .leftBracket => 10
  | _ => 0

/-- The tokens that can continue a phrase are those that bind at least so tightly. -/
def Phrase.binding : Phrase → Nat
  | .expression => 1
  | .chain .or => 2
  | .chain .and => 3
  | .negation => 4
  | .comparison => 5
  | .chain .arith => 6
  | .chain .term => 7
  | .factor => 8
  | .power => 9
  | .primary => 10

/-- The tightest phrase that a token can start, as a binding. -/
def lead : TokenKind → Nat
  | .int _ | .float _ | .string _ | .trueWord | .falseWord | .noneWord => 10
  | .identifier _ | .leftParen => 10
  | .plus | .minus => 8
  | .notWord => 4
  | _ => 0

/-- A phrase is not continued by the tokens after it. -/
def Closes (p : Phrase) (rest : List TokenKind) : Prop :=
  ∀ t ∈ rest.head?, Expr.binding t < p.binding

theorem Closes.nil (p : Phrase) : Closes p [] :=
  fun _ h => nomatch h

theorem closes_cons {p : Phrase} {t : TokenKind} {rest : List TokenKind} :
    Closes p (t :: rest) ↔ Expr.binding t < p.binding := by
  simp [Closes]

/-- What closes a phrase closes every tighter one. -/
theorem Closes.mono {p q : Phrase} {rest : List TokenKind} (h : Closes p rest)
    (hpq : p.binding ≤ q.binding) : Closes q rest :=
  fun t ht => Nat.lt_of_lt_of_le (h t ht) hpq

/-- A token that binds tightly enough does not follow a closed phrase. -/
theorem Closes.ne_cons {p : Phrase} {t : TokenKind} {rest : List TokenKind} (h : Closes p rest)
    (ht : p.binding ≤ Expr.binding t) (us : List TokenKind) : rest ≠ t :: us := by
  rintro rfl
  exact Nat.not_lt_of_le ht (closes_cons.mp h)

/-- The operands of a chain bind more than the chain. -/
theorem binding_chain_lt (c : Chain) :
    (Phrase.chain c).binding < (Phrase.operand c).binding := by
  cases c <;> decide

theorem Joins.binding_eq {c : Chain} {t : TokenKind} {join : Expr → Expr → Expr}
    (h : Joins c t join) : Expr.binding t = (Phrase.chain c).binding := by
  cases h <;> rfl

theorem Compares.binding_eq {t : TokenKind} {op : CompareOp} (h : Compares t op) :
    Expr.binding t = Phrase.comparison.binding := by
  cases h <;> rfl

/-- Only an operator of its level continues a chain, and every operand of the chain ends
there. -/
theorem Links.closes {c : Chain} {n : Nat} {left e : Expr} {ts rest : List TokenKind}
    (h : Links c n left ts e rest) (hrest : Closes (.chain c) rest) :
    Closes (.operand c) ts := by
  cases h with
  | done => exact hrest.mono (Nat.le_of_lt (binding_chain_lt c))
  | link hj _ _ =>
    rw [closes_cons, hj.binding_eq]
    exact binding_chain_lt c

/-- What starts with a comparison closes the operand before it, and so does what closes the
whole. -/
theorem Comparisons.closes {n : Nat} {ts rest : List TokenKind}
    {links : List (CompareOp × Expr)} (h : Comparisons n ts links rest)
    (hrest : Closes .comparison rest) : Closes (.chain .arith) ts := by
  cases h with
  | done => exact hrest.mono (by decide)
  | link hc _ _ =>
    rw [closes_cons, hc.binding_eq]
    decide

theorem Constant.lead_eq {t : TokenKind} {value : Literal} (h : Constant t value) :
    lead t = 10 := by
  cases h <;> rfl

/-- A sign can start every phrase but powers and primaries. -/
theorem Signs.lead_eq {t : TokenKind} {op : UnaryOp} (h : Signs t op) : lead t = 8 := by
  cases h <;> rfl

/-- The first of the tokens can start the phrase. -/
def Starts (p : Phrase) (ts : List TokenKind) : Prop :=
  ∃ t us, ts = t :: us ∧ p.binding ≤ lead t

/-- What starts a phrase starts the phrases that bind less. -/
theorem Starts.mono {p q : Phrase} {ts : List TokenKind} (h : Starts q ts)
    (hpq : p.binding ≤ q.binding) : Starts p ts := by
  obtain ⟨t, us, rfl, ht⟩ := h
  exact ⟨t, us, rfl, Nat.le_trans hpq ht⟩

/-- A phrase starts with a token that can start it. -/
theorem Derives.starts {p : Phrase} {n : Nat} {ts rest : List TokenKind} {e : Expr} :
    Derives p n ts e rest → Starts p ts
  -- phrases that start with a phrase
  | .plain h => h.starts.mono (by decide)
  | .conditional h _ _ => h.starts.mono (by decide)
  | .chain h _ => h.starts.mono (Nat.le_of_lt (binding_chain_lt _))
  | .comparison h => h.starts.mono (by decide)
  | .single h => h.starts.mono (by decide)
  | .compare h _ => h.starts.mono (by decide)
  | .unsigned h => h.starts.mono (by decide)
  | .base h => h.starts.mono (by decide)
  | .pow h _ => h.starts.mono (by decide)
  -- phrases that start with a token of their own
  | .not _ => ⟨_, _, rfl, Nat.le_refl _⟩
  | .sign hs _ => ⟨_, _, rfl, Nat.le_of_eq hs.lead_eq.symm⟩
  | .constant hc => ⟨_, _, rfl, Nat.le_of_eq hc.lead_eq.symm⟩
  | .name _ => ⟨_, _, rfl, Nat.le_refl _⟩
  | .lookup => ⟨_, _, rfl, Nat.le_refl _⟩
  | .call _ _ => ⟨_, _, rfl, Nat.le_refl _⟩
  | .parens _ => ⟨_, _, rfl, Nat.le_refl _⟩

/-- A token that cannot start a phrase is not the first one of the phrase. -/
theorem Derives.ne_cons {p : Phrase} {n : Nat} {t : TokenKind} {ts rest : List TokenKind}
    {e : Expr} (h : Derives p n ts e rest) (ht : lead t < p.binding)
    (us : List TokenKind) : ts ≠ t :: us := by
  rintro rfl
  obtain ⟨u, vs, heq, hu⟩ := h.starts
  cases heq
  exact Nat.not_lt_of_le hu ht

/-! ## Results -/

/-- The result of reading a phrase that nests `n` levels, at a depth: the value if the levels
fit between the depth and the limit, and else that the nesting is too deep. -/
def Settles {α : Type} (depth n : Nat) (result : Except Failure α) (value : α) : Prop :=
  depth + n ≤ maxDepth ∧ result = .ok value ∨
    maxDepth < depth + n ∧ ∃ left, result = .error ⟨.tooDeep, left⟩

theorem Settles.ok {α : Type} {depth n : Nat} {value : α} (h : depth + n ≤ maxDepth) :
    Settles depth n (.ok value) value :=
  .inl ⟨h, rfl⟩

theorem Settles.tooDeep {α : Type} {depth n left : Nat} {value : α}
    (h : maxDepth < depth + n) : Settles depth n (.error ⟨.tooDeep, left⟩) value :=
  .inr ⟨h, left, rfl⟩

/-- Beside levels that fit, the deeper ones decide. -/
theorem Settles.max_left {α : Type} {depth n m : Nat} {result : Except Failure α} {value : α}
    (hn : depth + n ≤ maxDepth) (h : Settles depth m result value) :
    Settles depth (max n m) result value := by
  rcases h with ⟨hm, rfl⟩ | ⟨hm, left, rfl⟩
  · exact .ok (by omega)
  · exact .tooDeep (by omega)

/-- What settles one level deeper settles with one level more. -/
theorem Settles.succ {α : Type} {depth n : Nat} {result : Except Failure α} {value : α}
    (h : Settles (depth + 1) n result value) : Settles depth (n + 1) result value := by
  rcases h with ⟨hn, rfl⟩ | ⟨hn, left, rfl⟩
  · exact .ok (by omega)
  · exact .tooDeep (by omega)

theorem enter_ok {depth : Nat} {ts : List TokenKind} (h : depth + 1 ≤ maxDepth) :
    enter depth ts = .ok (depth + 1) :=
  if_neg (Nat.not_lt_of_le h)

theorem enter_tooDeep {depth : Nat} {ts : List TokenKind} (h : ¬ depth + 1 ≤ maxDepth) :
    enter depth ts = .error ⟨.tooDeep, ts.length⟩ :=
  if_pos (Nat.lt_of_not_le h)

/-! ## Fuel

Sixteen calls are enough for every token; `Phrase.calls` counts those that lead from a phrase
to its first token. -/

/-- How many calls lead from a phrase to a primary one. -/
def Phrase.calls : Phrase → Nat
  | .primary => 1
  | .power => 2
  | .factor => 3
  | .chain .term => 5
  | .chain .arith => 7
  | .comparison | .negation => 8
  | .chain .and => 10
  | .chain .or => 12
  | .expression => 13

theorem Phrase.calls_pos (p : Phrase) : 0 < p.calls := by
  cases p with
  | chain c => cases c <;> decide
  | _ => decide

/-- An operand takes at least two calls less than its chain. -/
theorem operand_calls_lt (c : Chain) :
    (Phrase.operand c).calls + 1 < (Phrase.chain c).calls := by
  cases c <;> decide

/-- The parser settles every phrase, with so much fuel. -/
structure Complete (fuel : Nat) : Prop where
  expression : ∀ {depth n ts e rest}, depth ≤ maxDepth →
    16 * ts.length + Phrase.expression.calls ≤ fuel → Closes .expression rest →
    Derives .expression n ts e rest → Settles depth n (parseExpr fuel depth ts) (e, rest)
  chain : ∀ {c depth n ts e rest}, depth ≤ maxDepth →
    16 * ts.length + (Phrase.chain c).calls ≤ fuel → Closes (.chain c) rest →
    Derives (.chain c) n ts e rest → Settles depth n (parseChain fuel c depth ts) (e, rest)
  operand : ∀ {c depth n ts e rest}, depth ≤ maxDepth →
    16 * ts.length + (Phrase.operand c).calls + 1 ≤ fuel → Closes (.operand c) rest →
    Derives (.operand c) n ts e rest → Settles depth n (parseOperand fuel c depth ts) (e, rest)
  links : ∀ {c depth n left ts e rest}, depth ≤ maxDepth →
    16 * ts.length + 1 ≤ fuel → Closes (.chain c) rest →
    Links c n left ts e rest → Settles depth n (parseLinks fuel c depth left ts) (e, rest)
  negation : ∀ {depth n ts e rest}, depth ≤ maxDepth →
    16 * ts.length + Phrase.negation.calls ≤ fuel → Closes .negation rest →
    Derives .negation n ts e rest → Settles depth n (parseNegation fuel depth ts) (e, rest)
  comparisons : ∀ {depth n ts links rest}, depth ≤ maxDepth →
    16 * ts.length + 1 ≤ fuel → Closes .comparison rest →
    Comparisons n ts links rest →
    Settles depth n (parseComparisons fuel depth ts) (links, rest)
  factor : ∀ {depth n ts e rest}, depth ≤ maxDepth →
    16 * ts.length + Phrase.factor.calls ≤ fuel → Closes .factor rest →
    Derives .factor n ts e rest → Settles depth n (parseFactor fuel depth ts) (e, rest)
  power : ∀ {depth n ts e rest}, depth ≤ maxDepth →
    16 * ts.length + Phrase.power.calls ≤ fuel → Closes .factor rest →
    Derives .power n ts e rest → Settles depth n (parsePower fuel depth ts) (e, rest)
  primary : ∀ {depth n ts e rest}, depth ≤ maxDepth →
    16 * ts.length + Phrase.primary.calls ≤ fuel → Closes .primary rest →
    Derives .primary n ts e rest → Settles depth n (parsePrimary fuel depth ts) (e, rest)
  arguments : ∀ {depth n ts args rest}, depth ≤ maxDepth →
    16 * ts.length + 14 ≤ fuel → Arguments n ts args (.rightParen :: rest) →
    Settles depth n (parseArguments fuel depth ts) (args, .rightParen :: rest)

section
variable {fuel depth n : Nat} {ts rest : List TokenKind} {e : Expr}

/-- The step of expressions. Where the body closes without `if`, the phrase is a chain;
otherwise the test and the other branch follow. -/
theorem parseExpr_complete (ih : Complete fuel) (hd : depth ≤ maxDepth)
    (hf : 16 * ts.length + Phrase.expression.calls ≤ fuel + 1) (hc : Closes .expression rest)
    (h : Derives .expression n ts e rest) :
    Settles depth n (parseExpr (fuel + 1) depth ts) (e, rest) := by
  simp only [Phrase.calls] at hf
  simp only [parseExpr]
  cases h with
  | plain h =>
    by_cases hlimit : depth + 1 ≤ maxDepth
    · rw [enter_ok hlimit]
      refine .succ ?_
      have hbody := ih.chain hlimit (by simp only [Phrase.calls]; omega)
        (hc.mono (by decide)) h
      rcases hbody with ⟨hn, hbody⟩ | ⟨hn, left, hbody⟩
      · simp only [hbody]
        split
        · rename_i heq
          cases heq
        · -- what closes an expression is no `if`
          rename_i heq
          cases heq
          exact absurd rfl (hc.ne_cons (by decide) _)
        · rename_i heq
          cases heq
          exact .ok hn
      · simp only [hbody]
        exact .tooDeep hn
    · rw [enter_tooDeep hlimit]
      exact .tooDeep (by omega)
  | @conditional n m k _ us vs _ body test orelse hb ht ho =>
    have hus := hb.length_lt
    have hvs := ht.length_lt
    simp only [List.length_cons] at hus hvs
    by_cases hlimit : depth + 1 ≤ maxDepth
    · rw [enter_ok hlimit]
      refine .succ ?_
      have hbody := ih.chain hlimit (by simp only [Phrase.calls]; omega)
        (closes_cons.mpr (by decide)) hb
      rcases hbody with ⟨hn, hbody⟩ | ⟨hn, left, hbody⟩
      · simp only [hbody]
        refine .max_left hn ?_
        have htest := ih.chain hlimit (by simp only [Phrase.calls]; omega)
          (closes_cons.mpr (by decide)) ht
        rcases htest with ⟨hm, htest⟩ | ⟨hm, left, htest⟩
        · simp only [htest]
          refine .max_left hm ?_
          have horelse := ih.expression hlimit (by simp only [Phrase.calls]; omega) hc ho
          rcases horelse with ⟨hk, horelse⟩ | ⟨hk, left, horelse⟩
          · simp only [horelse]
            exact .ok hk
          · simp only [horelse]
            exact .tooDeep hk
        · simp only [htest]
          exact .tooDeep (by omega)
      · simp only [hbody]
        exact .tooDeep (by omega)
    · rw [enter_tooDeep hlimit]
      exact .tooDeep (by omega)

theorem parseChain_complete (ih : Complete fuel) {c : Chain} (hd : depth ≤ maxDepth)
    (hf : 16 * ts.length + (Phrase.chain c).calls ≤ fuel + 1) (hc : Closes (.chain c) rest)
    (h : Derives (.chain c) n ts e rest) :
    Settles depth n (parseChain (fuel + 1) c depth ts) (e, rest) := by
  have hcalls := operand_calls_lt c
  simp only [parseChain]
  cases h with
  | @chain _ n m _ us _ first _ hfirst hlinks =>
    have hus := hfirst.length_lt
    have hoperand := ih.operand hd (by omega) (hlinks.closes hc) hfirst
    rcases hoperand with ⟨hn, hoperand⟩ | ⟨hn, left, hoperand⟩
    · simp only [hoperand]
      exact .max_left hn (ih.links hd (by omega) hc hlinks)
    · simp only [hoperand]
      exact .tooDeep (by omega)

theorem parseOperand_complete (ih : Complete fuel) {c : Chain} (hd : depth ≤ maxDepth)
    (hf : 16 * ts.length + (Phrase.operand c).calls + 1 ≤ fuel + 1)
    (hc : Closes (.operand c) rest) (h : Derives (.operand c) n ts e rest) :
    Settles depth n (parseOperand (fuel + 1) c depth ts) (e, rest) := by
  have hf := Nat.le_of_succ_le_succ hf
  cases c with
  | or => exact ih.chain hd hf hc h
  | and => exact ih.negation hd hf hc h
  | arith => exact ih.chain hd hf hc h
  | term => exact ih.factor hd hf hc h

/-- The step of links. A token that closes the chain is none of its operators, so the parser
stops where the derivation does. -/
theorem parseLinks_complete (ih : Complete fuel) {c : Chain} {left : Expr}
    (hd : depth ≤ maxDepth) (hf : 16 * ts.length + 1 ≤ fuel + 1) (hc : Closes (.chain c) rest)
    (h : Links c n left ts e rest) :
    Settles depth n (parseLinks (fuel + 1) c depth left ts) (e, rest) := by
  have hcalls := operand_calls_lt c
  cases h with
  | done =>
    cases ts with
    | nil => exact .ok hd
    | cons t us =>
      -- a token that closes the chain joins no operand to it
      have hjoiner : c.joiner? t = none := by
        cases hj : c.joiner? t with
        | none => rfl
        | some joiner =>
          have hbinding := (joins_of_joiner? hj).binding_eq
          exact absurd (closes_cons.mp hc) (by omega)
      simp only [parseLinks, hjoiner]
      exact .ok hd
  | @link _ t join n m ts us _ _ right _ hj hright hlinks =>
    obtain ⟨joiner, hjoiner, rfl⟩ := hj.joiner?
    have hus := hright.length_lt
    simp only [List.length_cons] at hf
    simp only [parseLinks, hjoiner]
    by_cases hlimit : depth + 1 ≤ maxDepth
    · rw [enter_ok hlimit]
      refine .succ ?_
      have hle : (Phrase.operand c).calls + 1 < 12 := by cases c <;> decide
      have hoperand := ih.operand hlimit (by omega) (hlinks.closes hc) hright
      rcases hoperand with ⟨hn, hoperand⟩ | ⟨hn, left, hoperand⟩
      · simp only [hoperand]
        exact .max_left hn (ih.links hlimit (by omega) hc hlinks)
      · simp only [hoperand]
        exact .tooDeep (by omega)
    · rw [enter_tooDeep hlimit]
      exact .tooDeep (by omega)

theorem parseNegation_complete (ih : Complete fuel) (hd : depth ≤ maxDepth)
    (hf : 16 * ts.length + Phrase.negation.calls ≤ fuel + 1) (hc : Closes .negation rest)
    (h : Derives .negation n ts e rest) :
    Settles depth n (parseNegation (fuel + 1) depth ts) (e, rest) := by
  simp only [Phrase.calls] at hf
  cases h with
  | not h =>
    simp only [List.length_cons] at hf
    simp only [parseNegation]
    by_cases hlimit : depth + 1 ≤ maxDepth
    · rw [enter_ok hlimit]
      refine .succ ?_
      have hoperand := ih.negation hlimit (by simp only [Phrase.calls]; omega) hc h
      rcases hoperand with ⟨hn, hoperand⟩ | ⟨hn, left, hoperand⟩
      · simp only [hoperand]
        exact .ok hn
      · simp only [hoperand]
        exact .tooDeep hn
    · rw [enter_tooDeep hlimit]
      exact .tooDeep (by omega)
  | comparison h =>
    -- no comparison starts with the word of a negation
    have hnot := h.ne_cons (t := .notWord) (by decide)
    have hc : Closes .comparison rest := hc.mono (by decide)
    simp only [parseNegation]
    cases h with
    | single h =>
      have hfirst := ih.chain hd (by simp only [Phrase.calls]; omega)
        (hc.mono (by decide)) h
      rcases hfirst with ⟨hn, hfirst⟩ | ⟨hn, left, hfirst⟩
      · -- the parser looks for comparisons and finds none
        have hnone := ih.comparisons hd
          (by have := h.length_lt; omega) hc (.done : Comparisons 0 rest [] rest)
        rcases hnone with ⟨-, hnone⟩ | ⟨hdeep, -⟩
        · simp only [hfirst, hnone]
          exact .ok hn
        · omega
      · simp only [hfirst]
        exact .tooDeep hn
    | @compare n m _ us _ first link links h hlinks =>
      have hus := h.length_lt
      have hfirst := ih.chain hd (by simp only [Phrase.calls]; omega)
        (hlinks.closes hc) h
      rcases hfirst with ⟨hn, hfirst⟩ | ⟨hn, left, hfirst⟩
      · simp only [hfirst]
        refine .max_left hn ?_
        have hrest := ih.comparisons hd (by omega) hc hlinks
        rcases hrest with ⟨hm, hrest⟩ | ⟨hm, left, hrest⟩
        · simp only [hrest]
          exact .ok hm
        · simp only [hrest]
          exact .tooDeep hm
      · simp only [hfirst]
        exact .tooDeep (by omega)

theorem parseComparisons_complete (ih : Complete fuel) {links : List (CompareOp × Expr)}
    (hd : depth ≤ maxDepth) (hf : 16 * ts.length + 1 ≤ fuel + 1)
    (hc : Closes .comparison rest) (h : Comparisons n ts links rest) :
    Settles depth n (parseComparisons (fuel + 1) depth ts) (links, rest) := by
  cases h with
  | done =>
    cases ts with
    | nil => exact .ok hd
    | cons t us =>
      -- a token that closes the chain compares nothing with it
      have hop : compareOp? t = none := by
        cases ho : compareOp? t with
        | none => rfl
        | some op =>
          have hbinding := (compareOp?_eq_some_iff.mp ho).binding_eq
          exact absurd (closes_cons.mp hc) (by omega)
      simp only [parseComparisons, hop]
      exact .ok hd
  | @link t op n m ts us _ operand links ho hoperand hlinks =>
    have hus := hoperand.length_lt
    simp only [List.length_cons] at hf
    simp only [parseComparisons, compareOp?_eq_some_iff.mpr ho]
    have hfirst := ih.chain hd (by simp only [Phrase.calls]; omega)
      (hlinks.closes hc) hoperand
    rcases hfirst with ⟨hn, hfirst⟩ | ⟨hn, left, hfirst⟩
    · simp only [hfirst]
      refine .max_left hn ?_
      have hrest := ih.comparisons hd (by omega) hc hlinks
      rcases hrest with ⟨hm, hrest⟩ | ⟨hm, left, hrest⟩
      · simp only [hrest]
        exact .ok hm
      · simp only [hrest]
        exact .tooDeep hm
    · simp only [hfirst]
      exact .tooDeep (by omega)

theorem parseFactor_complete (ih : Complete fuel) (hd : depth ≤ maxDepth)
    (hf : 16 * ts.length + Phrase.factor.calls ≤ fuel + 1) (hc : Closes .factor rest)
    (h : Derives .factor n ts e rest) :
    Settles depth n (parseFactor (fuel + 1) depth ts) (e, rest) := by
  simp only [Phrase.calls] at hf
  cases h with
  | sign hs h =>
    simp only [List.length_cons] at hf
    simp only [parseFactor, signOp?_eq_some_iff.mpr hs]
    by_cases hlimit : depth + 1 ≤ maxDepth
    · rw [enter_ok hlimit]
      refine .succ ?_
      have hoperand := ih.factor hlimit (by simp only [Phrase.calls]; omega) hc h
      rcases hoperand with ⟨hn, hoperand⟩ | ⟨hn, left, hoperand⟩
      · simp only [hoperand]
        exact .ok hn
      · simp only [hoperand]
        exact .tooDeep hn
    · rw [enter_tooDeep hlimit]
      exact .tooDeep (by omega)
  | unsigned h =>
    obtain ⟨t, us, rfl, ht⟩ := h.starts
    -- a power starts with no sign
    have hsign : signOp? t = none := by
      cases hs : signOp? t with
      | none => rfl
      | some op =>
        rw [(signOp?_eq_some_iff.mp hs).lead_eq] at ht
        exact absurd ht (by decide)
    simp only [parseFactor, hsign]
    exact ih.power hd (by simp only [Phrase.calls]; omega) hc h

theorem parsePower_complete (ih : Complete fuel) (hd : depth ≤ maxDepth)
    (hf : 16 * ts.length + Phrase.power.calls ≤ fuel + 1) (hc : Closes .factor rest)
    (h : Derives .power n ts e rest) :
    Settles depth n (parsePower (fuel + 1) depth ts) (e, rest) := by
  simp only [Phrase.calls] at hf
  simp only [parsePower]
  cases h with
  | base h =>
    have hbase := ih.primary hd (by simp only [Phrase.calls]; omega) (hc.mono (by decide)) h
    rcases hbase with ⟨hn, hbase⟩ | ⟨hn, left, hbase⟩
    · simp only [hbase]
      split
      · rename_i heq
        cases heq
      · -- what closes a factor is no `**`
        rename_i heq
        cases heq
        exact absurd rfl (hc.ne_cons (by decide) _)
      · rename_i heq
        cases heq
        exact .ok hn
    · simp only [hbase]
      exact .tooDeep hn
  | @pow n m _ us _ base exponent hb he =>
    have hus := hb.length_lt
    simp only [List.length_cons] at hus
    have hbase := ih.primary hd (by simp only [Phrase.calls]; omega)
      (closes_cons.mpr (by decide)) hb
    rcases hbase with ⟨hn, hbase⟩ | ⟨hn, left, hbase⟩
    · simp only [hbase]
      refine .max_left hn ?_
      by_cases hlimit : depth + 1 ≤ maxDepth
      · rw [enter_ok hlimit]
        refine .succ ?_
        have hexponent := ih.factor hlimit (by simp only [Phrase.calls]; omega) hc he
        rcases hexponent with ⟨hm, hexponent⟩ | ⟨hm, left, hexponent⟩
        · simp only [hexponent]
          exact .ok hm
        · simp only [hexponent]
          exact .tooDeep hm
      · rw [enter_tooDeep hlimit]
        exact .tooDeep (by omega)
    · simp only [hbase]
      exact .tooDeep (by omega)

/-- The parser takes a name as far as the derivation, as no point follows. -/
theorem parseDotted_complete {name dotted : String} (hc : Closes .primary rest)
    (h : Dotted name ts dotted rest) : parseDotted name ts = .ok (dotted, rest) := by
  induction h with
  | done =>
    have hdot := hc.ne_cons (t := .dot) (by decide)
    unfold parseDotted
    split
    · exact absurd rfl (hdot _)
    · exact absurd rfl (hdot _)
    · rfl
  | part _ ih => exact ih hc

/-- A word that no parenthesis or bracket follows is the name that it starts. -/
theorem parseBareName_complete {word dotted : String} (hc : Closes .primary rest)
    (h : Dotted word ts dotted rest) : parseBareName word ts = .ok (.name dotted, rest) := by
  simp only [parseBareName, parseDotted_complete hc h]
  split
  · rename_i heq
    cases heq
  · rename_i heq
    cases heq
    exact absurd rfl (hc.ne_cons (by decide) _)
  · rename_i heq
    cases heq
    exact absurd rfl (hc.ne_cons (by decide) _)
  · rename_i heq
    cases heq
    rfl

/-- What follows the first word of a dotted name neither calls nor indexes it. -/
theorem Dotted.ne_cons {name dotted : String} {t : TokenKind} (hc : Closes .primary rest)
    (ht : Phrase.primary.binding ≤ Expr.binding t) (hdot : t ≠ .dot)
    (h : Dotted name ts dotted rest) (us : List TokenKind) : ts ≠ t :: us := by
  cases h with
  | done => exact hc.ne_cons ht us
  | part _ =>
    intro heq
    cases heq
    exact hdot rfl

theorem parsePrimary_complete (ih : Complete fuel) (hd : depth ≤ maxDepth)
    (hf : 16 * ts.length + Phrase.primary.calls ≤ fuel + 1) (hc : Closes .primary rest)
    (h : Derives .primary n ts e rest) :
    Settles depth n (parsePrimary (fuel + 1) depth ts) (e, rest) := by
  simp only [Phrase.calls] at hf
  cases h with
  | constant hvalue =>
    have hliteral := literal?_eq_some_iff.mpr hvalue
    cases hvalue <;> simp only [parsePrimary, hliteral] <;> exact .ok hd
  | @name word dotted ts _ h =>
    -- the name is neither called nor indexed, whichever of its words comes last
    have hcall := h.ne_cons hc (t := .leftParen) (by decide) (by simp)
    have hindex := h.ne_cons hc (t := .leftBracket) (by decide) (by simp)
    simp only [parsePrimary, parseBareName_complete hc h]
    exact .ok hd
  | lookup =>
    simp only [parsePrimary, parseLookup, if_true]
    exact .ok hd
  | @call f _ ts _ args hargs harity =>
    simp only [List.length_cons] at hf
    simp only [parsePrimary, ofName?_eq_some_iff.mpr rfl]
    rcases ih.arguments hd (by omega) hargs with ⟨hn, hargs⟩ | ⟨hn, left, hargs⟩
    · simp only [hargs, accepts_iff.mpr harity, if_true]
      exact .ok hn
    · simp only [hargs]
      exact .tooDeep hn
  | parens h =>
    simp only [List.length_cons] at hf
    simp only [parsePrimary]
    have hinner := ih.expression hd (by simp only [Phrase.calls]; omega)
      (closes_cons.mpr (by decide)) h
    rcases hinner with ⟨hn, hinner⟩ | ⟨hn, left, hinner⟩
    · simp only [hinner]
      exact .ok hn
    · simp only [hinner]
      exact .tooDeep hn

/-- The step of arguments, up to their closing parenthesis. -/
theorem parseArguments_complete (ih : Complete fuel) {args : List Expr} (hd : depth ≤ maxDepth)
    (hf : 16 * ts.length + 14 ≤ fuel + 1) (h : Arguments n ts args (.rightParen :: rest)) :
    Settles depth n (parseArguments (fuel + 1) depth ts) (args, .rightParen :: rest) := by
  cases h with
  | done =>
    simp only [parseArguments]
    exact .ok hd
  | last h =>
    obtain ⟨t, us, rfl, -⟩ := h.starts
    -- an argument does not start with the closing parenthesis
    have hclose := h.ne_cons (t := .rightParen) (by decide)
    simp only [parseArguments]
    have harg := ih.expression hd (by simp only [Phrase.calls]; omega)
      (closes_cons.mpr (by decide)) h
    rcases harg with ⟨hn, harg⟩ | ⟨hn, left, harg⟩
    · simp only [harg]
      exact .ok hn
    · simp only [harg]
      exact .tooDeep hn
  | @more n m ts us _ arg args h hargs =>
    have hus := h.length_lt
    obtain ⟨t, vs, rfl, -⟩ := h.starts
    have hclose := h.ne_cons (t := .rightParen) (by decide)
    simp only [List.length_cons] at hus
    simp only [parseArguments]
    have harg := ih.expression hd (by simp only [Phrase.calls]; omega)
      (closes_cons.mpr (by decide)) h
    rcases harg with ⟨hn, harg⟩ | ⟨hn, left, harg⟩
    · simp only [harg]
      refine .max_left hn ?_
      simp only [List.length_cons] at hf
      rcases ih.arguments hd (by omega) hargs with ⟨hm, hmore⟩ | ⟨hm, left, hmore⟩
      · simp only [hmore]
        exact .ok hm
      · simp only [hmore]
        exact .tooDeep hm
    · simp only [harg]
      exact .tooDeep (by omega)

end

theorem not_enough {m n : Nat} (hn : 0 < n) : ¬ m + n ≤ 0 :=
  Nat.not_le_of_lt (Nat.add_pos_right m hn)

/-- Every phrase takes fuel. -/
theorem Complete.zero : Complete 0 where
  expression _ hf := absurd hf (not_enough (Phrase.calls_pos _))
  chain _ hf := absurd hf (not_enough (Phrase.calls_pos _))
  operand _ hf := absurd hf (not_enough Nat.one_pos)
  links _ hf := absurd hf (not_enough Nat.one_pos)
  negation _ hf := absurd hf (not_enough (Phrase.calls_pos _))
  comparisons _ hf := absurd hf (not_enough Nat.one_pos)
  factor _ hf := absurd hf (not_enough (Phrase.calls_pos _))
  power _ hf := absurd hf (not_enough (Phrase.calls_pos _))
  primary _ hf := absurd hf (not_enough (Phrase.calls_pos _))
  arguments _ hf := absurd hf (not_enough (Nat.succ_pos _))

theorem Complete.succ {fuel : Nat} (ih : Complete fuel) : Complete (fuel + 1) where
  expression hd hf hc h := parseExpr_complete ih hd hf hc h
  chain hd hf hc h := parseChain_complete ih hd hf hc h
  operand hd hf hc h := parseOperand_complete ih hd hf hc h
  links hd hf hc h := parseLinks_complete ih hd hf hc h
  negation hd hf hc h := parseNegation_complete ih hd hf hc h
  comparisons hd hf hc h := parseComparisons_complete ih hd hf hc h
  factor hd hf hc h := parseFactor_complete ih hd hf hc h
  power hd hf hc h := parsePower_complete ih hd hf hc h
  primary hd hf hc h := parsePrimary_complete ih hd hf hc h
  arguments hd hf h := parseArguments_complete ih hd hf h

/-- The parser settles every phrase with enough fuel. -/
theorem complete (fuel : Nat) : Complete fuel := by
  induction fuel with
  | zero => exact .zero
  | succ fuel ih => exact ih.succ

end RowSignals.Expr
