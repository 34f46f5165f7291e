import RowSignals.Proofs.Expr.Completeness

/-!
# What the parser accepts

The parser accepts exactly the lists of tokens that the grammar derives within the limit on
nesting, and returns the tree of the derivation.

* `Shallow`: results that do not complain about nesting. So many tokens as the limit has
  levels cannot nest too deeply (`roomy`), since every level but the first takes a token.
* `parseKinds_eq_ok_iff`, `parseKinds_of_deep`: whole lists of kinds.
* `parseTokens_accepts_grammar`: the tokens of a text.
-/

namespace RowSignals.Expr

/-! ## Short lists do not nest too deeply -/

/-- A result that is not the problem of nesting too deeply. -/
def Shallow {α : Type} (result : Except Failure α) : Prop :=
  ∀ left, result ≠ .error ⟨.tooDeep, left⟩

/-- A value is no complaint. -/
theorem Shallow.ok {α : Type} (value : α) : Shallow (.ok value) :=
  fun _ h => nomatch h

theorem Shallow.fail {α : Type} {problem : Problem} {ts : List TokenKind}
    (h : problem ≠ .tooDeep) : Shallow (fail problem ts : Except Failure α) := by
  intro left heq
  injection heq with heq
  injection heq with heq
  exact h heq

/-- A failure that is passed on complains of nesting only if it did before. -/
theorem Shallow.error {α β : Type} {result : Except Failure α} {failure : Failure}
    (h : Shallow result) (hfailure : result = .error failure) :
    Shallow (.error failure : Except Failure β) := by
  rintro left heq
  cases heq
  exact h left hfailure

/-- A phrase takes at least one token. -/
theorem Fits.length_lt {p : Phrase} {depth : Nat} {ts rest : List TokenKind} {e : Expr}
    (h : Fits depth fun n => Derives p n ts e rest) : rest.length < ts.length := by
  obtain ⟨n, h, -⟩ := h
  exact h.length_lt

/-- With enough fuel, and with no more tokens than levels are left, nothing nests too
deeply. -/
structure Roomy (fuel : Nat) : Prop where
  expression : ∀ {depth ts}, depth + ts.length < maxDepth →
    16 * ts.length + Phrase.expression.calls ≤ fuel → Shallow (parseExpr fuel depth ts)
  chain : ∀ {c depth ts}, depth + ts.length ≤ maxDepth →
    16 * ts.length + (Phrase.chain c).calls ≤ fuel → Shallow (parseChain fuel c depth ts)
  operand : ∀ {c depth ts}, depth + ts.length ≤ maxDepth →
    16 * ts.length + (Phrase.operand c).calls + 1 ≤ fuel →
    Shallow (parseOperand fuel c depth ts)
  links : ∀ {c depth left ts}, depth + ts.length ≤ maxDepth →
    16 * ts.length + 1 ≤ fuel → Shallow (parseLinks fuel c depth left ts)
  negation : ∀ {depth ts}, depth + ts.length ≤ maxDepth →
    16 * ts.length + Phrase.negation.calls ≤ fuel → Shallow (parseNegation fuel depth ts)
  comparisons : ∀ {depth ts}, depth + ts.length ≤ maxDepth →
    16 * ts.length + 1 ≤ fuel → Shallow (parseComparisons fuel depth ts)
  factor : ∀ {depth ts}, depth + ts.length ≤ maxDepth →
    16 * ts.length + Phrase.factor.calls ≤ fuel → Shallow (parseFactor fuel depth ts)
  power : ∀ {depth ts}, depth + ts.length ≤ maxDepth →
    16 * ts.length + Phrase.power.calls ≤ fuel → Shallow (parsePower fuel depth ts)
  primary : ∀ {depth ts}, depth + ts.length ≤ maxDepth →
    16 * ts.length + Phrase.primary.calls ≤ fuel → Shallow (parsePrimary fuel depth ts)
  arguments : ∀ {depth ts}, depth + ts.length < maxDepth →
    16 * ts.length + 14 ≤ fuel → Shallow (parseArguments fuel depth ts)

section
variable {fuel depth : Nat} {ts : List TokenKind}

/-- The step of expressions. The level that an expression opens is paid for by the tokens before
its last part: those of the body with `if`, and those of the test with `else`. -/
theorem parseExpr_shallow (ih : Roomy fuel) (hr : depth + ts.length < maxDepth)
    (hf : 16 * ts.length + Phrase.expression.calls ≤ fuel + 1) :
    Shallow (parseExpr (fuel + 1) depth ts) := by
  have hlimit : depth + 1 ≤ maxDepth := by omega
  simp only [Phrase.calls] at hf
  simp only [parseExpr, enter_ok hlimit]
  have hbody : Shallow (parseChain fuel .or (depth + 1) ts) :=
    ih.chain (by omega) (by simp only [Phrase.calls]; omega)
  split
  · rename_i failure hfailure
    exact hbody.error hfailure
  · rename_i body us hok
    have hus := ((sound fuel).chain hlimit hok).length_lt
    simp only [List.length_cons] at hus
    -- the body took at least one token and `if` another, which pays for the level of the test
    have htest : Shallow (parseChain fuel .or (depth + 1) us) :=
      ih.chain (by omega) (by simp only [Phrase.calls]; omega)
    split
    · rename_i failure hfailure
      exact htest.error hfailure
    · rename_i test vs hok
      have hvs := ((sound fuel).chain hlimit hok).length_lt
      simp only [List.length_cons] at hvs
      -- likewise the test and `else`
      have horelse : Shallow (parseExpr fuel (depth + 1) vs) :=
        ih.expression (by omega) (by simp only [Phrase.calls]; omega)
      split
      · rename_i failure hfailure
        exact horelse.error hfailure
      · exact .ok _
    · exact .fail (by simp)
  · exact .ok _

/-- The step of chains, which open no level: the operand takes a token before the links start. -/
theorem parseChain_shallow (ih : Roomy fuel) {c : Chain} (hr : depth + ts.length ≤ maxDepth)
    (hf : 16 * ts.length + (Phrase.chain c).calls ≤ fuel + 1) :
    Shallow (parseChain (fuel + 1) c depth ts) := by
  have hcalls := operand_calls_lt c
  simp only [parseChain]
  split
  · rename_i failure hfailure
    exact (ih.operand hr (by omega)).error hfailure
  · rename_i first us hok
    have hus := ((sound fuel).operand (by omega) hok).length_lt
    exact ih.links (by omega) (by omega)

/-- The step of operands, which are phrases of the next kind. -/
theorem parseOperand_shallow (ih : Roomy fuel) {c : Chain} (hr : depth + ts.length ≤ maxDepth)
    (hf : 16 * ts.length + (Phrase.operand c).calls + 1 ≤ fuel + 1) :
    Shallow (parseOperand (fuel + 1) c depth ts) := by
  have hf := Nat.le_of_succ_le_succ hf
  cases c with
  | or => exact ih.chain hr hf
  | and => exact ih.negation hr hf
  | arith => exact ih.chain hr hf
  | term => exact ih.factor hr hf

/-- The step of links. Each opens a level and takes the token of its operator. -/
theorem parseLinks_shallow (ih : Roomy fuel) {c : Chain} {left : Expr}
    (hr : depth + ts.length ≤ maxDepth) (hf : 16 * ts.length + 1 ≤ fuel + 1) :
    Shallow (parseLinks (fuel + 1) c depth left ts) := by
  cases ts with
  | nil => exact .ok _
  | cons t us =>
    simp only [List.length_cons] at hr hf
    have hlimit : depth + 1 ≤ maxDepth := by omega
    have hcalls : (Phrase.operand c).calls < 15 := by cases c <;> decide
    simp only [parseLinks, enter_ok hlimit]
    split
    · exact .ok _
    · split
      · rename_i failure hfailure
        exact (ih.operand (by omega) (by omega)).error hfailure
      · -- the operator pays for the level of the links after it
        rename_i right vs hok
        have hvs := ((sound fuel).operand hlimit hok).length_lt
        exact ih.links (by omega) (by omega)

/-- The step of negations, where `not` pays for the level. -/
theorem parseNegation_shallow (ih : Roomy fuel) (hr : depth + ts.length ≤ maxDepth)
    (hf : 16 * ts.length + Phrase.negation.calls ≤ fuel + 1) :
    Shallow (parseNegation (fuel + 1) depth ts) := by
  simp only [Phrase.calls] at hf
  simp only [parseNegation]
  split
  · rename_i us
    simp only [List.length_cons] at hr hf
    -- The word itself is one token fewer to read, which pays for the level.
    have hlimit : depth + 1 ≤ maxDepth := by omega
    simp only [enter_ok hlimit]
    split
    · rename_i failure hfailure
      have hoperand : Shallow (parseNegation fuel (depth + 1) us) :=
        ih.negation (by omega) (by simp only [Phrase.calls]; omega)
      exact hoperand.error hfailure
    · exact .ok _
  · split
    · rename_i failure hfailure
      exact (ih.chain hr (by simp only [Phrase.calls]; omega)).error hfailure
    · rename_i first us hok
      -- What follows the first operand is shorter, so the fuel is enough for the links.
      have hus := ((sound fuel).chain (by omega) hok).length_lt
      split
      · rename_i failure hfailure
        exact (ih.comparisons (by omega) (by omega)).error hfailure
      · exact .ok _
      · exact .ok _

/-- The step of comparisons, where each operator pays for the level of its operand. -/
theorem parseComparisons_shallow (ih : Roomy fuel) (hr : depth + ts.length ≤ maxDepth)
    (hf : 16 * ts.length + 1 ≤ fuel + 1) : Shallow (parseComparisons (fuel + 1) depth ts) := by
  cases ts with
  | nil => exact .ok _
  | cons t us =>
    simp only [List.length_cons] at hr hf
    simp only [parseComparisons]
    split
    · exact .ok _
    · split
      · rename_i failure hfailure
        have hoperand : Shallow (parseChain fuel .arith depth us) :=
          ih.chain (by omega) (by simp only [Phrase.calls]; omega)
        exact hoperand.error hfailure
      · rename_i operand vs hok
        have hvs := ((sound fuel).chain (by omega) hok).length_lt
        split
        · rename_i failure hfailure
          exact (ih.comparisons (by omega) (by omega)).error hfailure
        · exact .ok _

/-- The step of factors, where the sign pays for the level. -/
theorem parseFactor_shallow (ih : Roomy fuel) (hr : depth + ts.length ≤ maxDepth)
    (hf : 16 * ts.length + Phrase.factor.calls ≤ fuel + 1) :
    Shallow (parseFactor (fuel + 1) depth ts) := by
  simp only [Phrase.calls] at hf
  cases ts with
  | nil => exact ih.power hr (by simp only [Phrase.calls]; omega)
  | cons t us =>
    simp only [parseFactor]
    split
    · exact ih.power hr (by simp only [Phrase.calls]; omega)
    · simp only [List.length_cons] at hr hf
      have hlimit : depth + 1 ≤ maxDepth := by omega
      simp only [enter_ok hlimit]
      split
      · rename_i failure hfailure
        have hoperand : Shallow (parseFactor fuel (depth + 1) us) :=
          ih.factor (by omega) (by simp only [Phrase.calls]; omega)
        exact hoperand.error hfailure
      · exact .ok _

/-- The step of powers. The base has taken a token when the exponent opens a level. -/
theorem parsePower_shallow (ih : Roomy fuel) (hr : depth + ts.length ≤ maxDepth)
    (hf : 16 * ts.length + Phrase.power.calls ≤ fuel + 1) :
    Shallow (parsePower (fuel + 1) depth ts) := by
  simp only [Phrase.calls] at hf
  simp only [parsePower]
  split
  · rename_i failure hfailure
    exact (ih.primary hr (by simp only [Phrase.calls]; omega)).error hfailure
  · rename_i base us hok
    have hus := ((sound fuel).primary (by omega) hok).length_lt
    simp only [List.length_cons] at hus
    have hlimit : depth + 1 ≤ maxDepth := by omega
    simp only [enter_ok hlimit]
    split
    · rename_i failure hfailure
      have hexponent : Shallow (parseFactor fuel (depth + 1) us) :=
        ih.factor (by omega) (by simp only [Phrase.calls]; omega)
      exact hexponent.error hfailure
    · exact .ok _
  · exact .ok _

/-- Names open no levels. -/
theorem parseDotted_shallow (name : String) (ts : List TokenKind) :
    Shallow (parseDotted name ts) := by
  fun_induction parseDotted name ts with
  | case1 name part ts ih => exact ih
  | case2 => exact .fail (by simp)
  | case3 => exact .ok _

theorem parseBareName_shallow (word : String) (ts : List TokenKind) :
    Shallow (parseBareName word ts) := by
  unfold parseBareName
  split
  · rename_i failure hfailure
    exact (parseDotted_shallow word ts).error hfailure
  · exact .fail (by simp)
  · exact .fail (by simp)
  · exact .ok _

theorem parseLookup_shallow (ts : List TokenKind) : Shallow (parseLookup ts) := by
  unfold parseLookup
  split
  · exact .ok _
  · exact .fail (by simp)
  · exact .fail (by simp)

/-- A token that starts no primary is reported as such, not as nested too deeply. -/
theorem primaryProblem_ne_tooDeep (t : TokenKind) : primaryProblem t ≠ .tooDeep := by
  cases t <;> simp [primaryProblem]

/-- The step of primaries. A parenthesis, of a group or of a call, pays for the level of what
follows it. -/
theorem parsePrimary_shallow (ih : Roomy fuel) (hr : depth + ts.length ≤ maxDepth)
    (hf : 16 * ts.length + Phrase.primary.calls ≤ fuel + 1) :
    Shallow (parsePrimary (fuel + 1) depth ts) := by
  simp only [Phrase.calls] at hf
  simp only [parsePrimary]
  split
  · exact .fail (by simp)
  · -- the parenthesis pays for the level of the expression inside
    rename_i us
    simp only [List.length_cons] at hr hf
    split
    · rename_i failure hfailure
      have hinner : Shallow (parseExpr fuel depth us) :=
        ih.expression (by omega) (by simp only [Phrase.calls]; omega)
      exact hinner.error hfailure
    · exact .ok _
    · exact .fail (by simp)
  · -- the name and the parenthesis pay for the level of the arguments
    rename_i word us
    simp only [List.length_cons] at hr hf
    split
    · exact .fail (by simp)
    · split
      · rename_i failure hfailure
        have hargs : Shallow (parseArguments fuel depth us) :=
          ih.arguments (by omega) (by omega)
        exact hargs.error hfailure
      · split
        · exact .ok _
        · exact .fail (by simp)
      · exact .fail (by simp)
  · split
    · exact parseLookup_shallow _
    · exact parseBareName_shallow _ _
  · exact parseBareName_shallow _ _
  · split
    · exact .ok _
    · exact .fail (primaryProblem_ne_tooDeep _)

/-- The step of arguments, each of which takes a token before the next one. -/
theorem parseArguments_shallow (ih : Roomy fuel) (hr : depth + ts.length < maxDepth)
    (hf : 16 * ts.length + 14 ≤ fuel + 1) : Shallow (parseArguments (fuel + 1) depth ts) := by
  simp only [parseArguments]
  split
  · exact .ok _
  · exact .ok _
  · have harg := ih.expression hr (by simp only [Phrase.calls]; omega)
    split
    · rename_i failure hfailure
      exact harg.error hfailure
    · rename_i arg us hok
      have hus := ((sound fuel).expression (by omega) hok).length_lt
      simp only [List.length_cons] at hus
      split
      · rename_i failure hfailure
        exact (ih.arguments (by omega) (by omega)).error hfailure
      · exact .ok _
    · exact .ok _

end

theorem Roomy.zero : Roomy 0 where
  expression _ hf := absurd hf (not_enough (Phrase.calls_pos _))
  chain _ hf := absurd hf (not_enough (Phrase.calls_pos _))
  operand _ hf := absurd hf (not_enough Nat.one_pos)
  links _ hf := absurd hf (not_enough Nat.one_pos)
  negation _ hf := absurd hf (not_enough (Phrase.calls_pos _))
  comparisons _ hf := absurd hf (not_enough Nat.one_pos)
  factor _ hf := absurd hf (not_enough (Phrase.calls_pos _))
  power _ hf := absurd hf (not_enough (Phrase.calls_pos _))
  primary _ hf := absurd hf (not_enough (Phrase.calls_pos _))
  arguments _ hf := absurd hf (not_enough (Nat.succ_pos _))

/-- One more unit of fuel: every step lemma at once. -/
theorem Roomy.succ {fuel : Nat} (ih : Roomy fuel) : Roomy (fuel + 1) where
  expression hr hf := parseExpr_shallow ih hr hf
  chain hr hf := parseChain_shallow ih hr hf
  operand hr hf := parseOperand_shallow ih hr hf
  links hr hf := parseLinks_shallow ih hr hf
  negation hr hf := parseNegation_shallow ih hr hf
  comparisons hr hf := parseComparisons_shallow ih hr hf
  factor hr hf := parseFactor_shallow ih hr hf
  power hr hf := parsePower_shallow ih hr hf
  primary hr hf := parsePrimary_shallow ih hr hf
  arguments hr hf := parseArguments_shallow ih hr hf

/-- By induction on the fuel, no parser complains of nesting where levels are left for all
tokens. -/
theorem roomy (fuel : Nat) : Roomy fuel := by
  induction fuel with
  | zero => exact .zero
  | succ fuel ih => exact ih.succ

/-! ## Whole lists of kinds -/

/-- A whole list of kinds is accepted, with the tree of its derivation, if the grammar derives
it within the limit. -/
theorem parseKinds_eq_ok_iff {ts : List TokenKind} {e : Expr} :
    parseKinds ts = .ok e ↔ ∃ n ≤ maxDepth, Derives .expression n ts e [] := by
  constructor
  · intro h
    unfold parseKinds at h
    split at h
    · cases h
    · split at h
      · cases h
      · rename_i hexpr
        cases h
        obtain ⟨n, hn, hfit⟩ := (sound _).expression (Nat.zero_le _) hexpr
        exact ⟨n, by omega, hn⟩
      · cases h
      · cases h
  · rintro ⟨n, hn, h⟩
    -- the list is not empty, so that its problem is not that nothing is there
    obtain ⟨t, us, rfl, -⟩ := h.starts
    have hsettles := (complete (enoughFuel (t :: us).length)).expression (Nat.zero_le _)
      (by simp only [Phrase.calls, enoughFuel]; omega) (.nil _) h
    rcases hsettles with ⟨-, hok⟩ | ⟨hdeep, -⟩
    · simp only [parseKinds, hok]
    · omega

/-- Tokens that nest too many levels are refused for that. -/
theorem parseKinds_of_deep {ts : List TokenKind} {e : Expr} {n : Nat}
    (h : Derives .expression n ts e []) (hn : maxDepth < n) :
    ∃ left, parseKinds ts = .error ⟨.tooDeep, left⟩ := by
  obtain ⟨t, us, rfl, -⟩ := h.starts
  have hsettles := (complete (enoughFuel (t :: us).length)).expression (Nat.zero_le _)
    (by simp only [Phrase.calls, enoughFuel]; omega) (.nil _) h
  rcases hsettles with ⟨hfit, -⟩ | ⟨-, left, hdeep⟩
  · omega
  · exact ⟨left, by simp only [parseKinds, hdeep]⟩

/-- A list of fewer kinds than the limit has levels is never found to nest too deeply. -/
theorem parseKinds_shallow {ts : List TokenKind} (h : ts.length < maxDepth) :
    Shallow (parseKinds ts) := by
  unfold parseKinds
  split
  · exact .fail (by simp)
  · split
    · rename_i failure hfailure
      have hexpr : Shallow (parseExpr (enoughFuel ts.length) 0 ts) :=
        (roomy _).expression (by omega) (by simp only [Phrase.calls, enoughFuel]; omega)
      exact hexpr.error hfailure
    · exact .ok _
    · exact .fail (by simp)
    · exact .fail (by simp)

/-! ## The tokens of a text -/

/-- No invalid token is found where there is none. -/
theorem firstInvalid?_eq_none_iff {tokens : List Token} :
    firstInvalid? tokens = none ↔ ∀ t ∈ tokens, ∀ error, t.kind ≠ .invalid error := by
  fun_induction firstInvalid? tokens with
  | case1 => simp
  | case2 error span rest => simp
  | case3 t rest hvalid ih =>
    rw [ih]
    constructor
    · intro h u hu error herror
      rcases List.mem_cons.mp hu with rfl | hu
      · exact hvalid error _ (by rw [← herror])
      · exact h u hu error herror
    · intro h u hu
      exact h u (List.mem_cons_of_mem _ hu)

/-- A list of tokens is refused because it nests too deeply. -/
def NestsTooDeeply (ts : Tokens) : Prop :=
  ∃ line column, parseTokens ts = .error ⟨.tooDeep, line, column⟩

/-- The grammar derives no list with an invalid token. -/
theorem firstInvalid?_of_derivable {ts : Tokens} {e : Expr} (h : Derivable ts.kinds e) :
    firstInvalid? ts.tokens = none := by
  rw [firstInvalid?_eq_none_iff]
  intro t ht error herror
  have hadmissible := h.admissible t.kind (List.mem_map_of_mem ht)
  rw [herror] at hadmissible
  exact hadmissible

/-- The tokens of a text are accepted where their kinds are derived within the limit. -/
theorem parseTokens_eq_ok_iff {ts : Tokens} {e : Expr} :
    parseTokens ts = .ok e ↔ ∃ n ≤ maxDepth, Derives .expression n ts.kinds e [] := by
  rw [← parseKinds_eq_ok_iff]
  constructor
  · intro h
    unfold parseTokens at h
    split at h
    · cases h
    · split at h
      · rename_i hkinds
        cases h
        exact hkinds
      · cases h
  · intro h
    obtain ⟨n, -, hn⟩ := parseKinds_eq_ok_iff.mp h
    simp only [parseTokens, firstInvalid?_of_derivable ⟨n, hn⟩, h]

/-- What is derived with more levels than the limit has nests too deeply. -/
theorem nestsTooDeeply_of_deep {ts : Tokens} {e : Expr} {n : Nat}
    (h : Derives .expression n ts.kinds e []) (hn : maxDepth < n) : NestsTooDeeply ts := by
  obtain ⟨left, hleft⟩ := parseKinds_of_deep h hn
  refine ⟨(ts.placeOf left).line, (ts.placeOf left).column, ?_⟩
  simp only [parseTokens, firstInvalid?_of_derivable ⟨n, h⟩, hleft]

/-- Fewer tokens than the limit has levels never nest too deeply. -/
theorem not_nestsTooDeeply {ts : Tokens} (h : ts.tokens.length < maxDepth) :
    ¬ NestsTooDeeply ts := by
  rintro ⟨line, column, htoo⟩
  unfold parseTokens at htoo
  split at htoo
  · cases htoo
  · split at htoo
    · cases htoo
    · rename_i failure hfailure
      injection htoo with htoo
      injection htoo with hproblem
      have hshort : ts.kinds.length < maxDepth := by rwa [Tokens.kinds, List.length_map]
      refine parseKinds_shallow hshort failure.left ?_
      rw [hfailure, ← hproblem]

/-- The parser accepts exactly the grammar, within the limit on nesting. What it accepts is
derivable with the tree that it returns. What is derivable is accepted with its tree, or
nests more levels than the limit and is refused for that; a list of at most 127 tokens is
never refused for that. Nothing with a reserved word, an assignment or an invalid token is
accepted. -/
theorem parseTokens_accepts_grammar (ts : Tokens) :
    (∀ e, parseTokens ts = .ok e → Derivable ts.kinds e) ∧
    (∀ e n, Derives .expression n ts.kinds e [] →
      n ≤ maxDepth ∧ parseTokens ts = .ok e ∨ maxDepth < n ∧ NestsTooDeeply ts) ∧
    (ts.tokens.length ≤ 127 → ¬ NestsTooDeeply ts) ∧
    (∀ t ∈ ts.kinds, ¬ Admissible t → ∀ e, parseTokens ts ≠ .ok e) := by
  have hsound : ∀ e, parseTokens ts = .ok e → Derivable ts.kinds e := by
    intro e h
    obtain ⟨n, -, hn⟩ := parseTokens_eq_ok_iff.mp h
    exact ⟨n, hn⟩
  refine ⟨hsound, ?_, ?_, ?_⟩
  · intro e n h
    rcases Nat.lt_or_ge maxDepth n with hn | hn
    · exact .inr ⟨hn, nestsTooDeeply_of_deep h hn⟩
    · exact .inl ⟨hn, parseTokens_eq_ok_iff.mpr ⟨n, hn, h⟩⟩
  · intro h
    exact not_nestsTooDeeply (Nat.lt_succ_of_le h)
  · intro t ht hbad e h
    exact hbad ((hsound e h).admissible t ht)

/-- The grammar derives `-2 ** 2` as the negation of a power, because the parser accepts
it. -/
theorem derivable_negated_power :
    Derivable [.minus, .int 2, .doubleStar, .int 2]
      (.unary .neg (.binary .pow (.literal (.int 2)) (.literal (.int 2)))) :=
  (parseTokens_accepts_grammar
    ⟨[⟨.minus, {}⟩, ⟨.int 2, {}⟩, ⟨.doubleStar, {}⟩, ⟨.int 2, {}⟩], {}⟩).1 _ rfl

end RowSignals.Expr
