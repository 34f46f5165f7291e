import RowSignals.Proofs.Expr.Parsing
import RowSignals.Proofs.Expr.Spelling
import RowSignals.Proofs.Expr.Subterms

/-!
# Printed expressions read back

The canonical text of a well-formed expression reads back as the same expression, unless it
nests too deeply.

* `height`: how high a tree is; leaves have height zero.
* `levels`: how many levels the canonical text of an expression nests.
* `derives_levels`, `derives_spell`: the grammar derives an expression from the tokens of its
  canonical text, nesting just those levels, which are at most two for each level of the tree.
* `parse_print`: the round trip.
-/

namespace RowSignals.Expr

/-! ## The height of a tree -/

mutual

/-- How many operators and calls stand inside each other at most. -/
def height : Expr → Nat
  | .literal _ => 0
  | .name _ => 0
  | .source _ => 0
  | .unary _ e => height e + 1
  | .binary _ l r => max (height l) (height r) + 1
  | .chained first links => max (height first) (linkHeight links) + 1
  | .boolean _ l r => max (height l) (height r) + 1
  | .conditional body test orelse =>
    max (height body) (max (height test) (height orelse)) + 1
  | .call _ args => argHeight args + 1

/-- The height of the highest operand of a chain. -/
def linkHeight : List (CompareOp × Expr) → Nat
  | [] => 0
  | (_, e) :: links => max (height e) (linkHeight links)

/-- The height of the highest argument. -/
def argHeight : List Expr → Nat
  | [] => 0
  | e :: args => max (height e) (argHeight args)

end

/-! ## The grammar derives the expression from its tokens -/

theorem constant_token (value : Literal) : Constant value.token value := by
  cases value with
  | int i => exact .int i
  | float x => exact .float x
  | str s => exact .string s
  | bool b => cases b <;> constructor
  | none => exact .noneWord

theorem compares_token (op : CompareOp) : Compares op.token op := by
  cases op <;> constructor

section
variable {n m : Nat} {ts us rest : List TokenKind} {e l r : Expr}

/-- A phrase of the level below a chain is a chain without links. -/
theorem Derives.chain_of_operand {c : Chain} (h : Derives (.operand c) n ts e rest) :
    Derives (.chain c) n ts e rest := by
  have hchain : Derives (.chain c) (max n 0) ts e rest := .chain h .done
  rwa [Nat.max_zero] at hchain

/-- A chain with one link. -/
theorem Derives.join {c : Chain} {t : TokenKind} {join : Expr → Expr → Expr}
    (hj : Joins c t join) (hl : Derives (.operand c) n ts l (t :: us))
    (hr : Derives (.operand c) m us r rest) :
    Derives (.chain c) (max n (m + 1)) ts (join l r) rest := by
  have hchain : Derives (.chain c) (max n (max m 0 + 1)) ts (join l r) rest :=
    .chain hl (.link hj hr .done)
  rwa [Nat.max_zero] at hchain

/-- A primary is a factor without sign or exponent. Such steps along the grammar take no level. -/
theorem Derives.factor_of_primary (h : Derives .primary n ts e rest) :
    Derives .factor n ts e rest :=
  .unsigned (.base h)

theorem Derives.term_of_factor (h : Derives .factor n ts e rest) :
    Derives (.chain .term) n ts e rest :=
  .chain_of_operand (c := .term) h

theorem Derives.arith_of_primary (h : Derives .primary n ts e rest) :
    Derives (.chain .arith) n ts e rest :=
  .chain_of_operand (c := .arith) h.factor_of_primary.term_of_factor

theorem Derives.negation_of_arith (h : Derives (.chain .arith) n ts e rest) :
    Derives .negation n ts e rest :=
  .comparison (.single h)

theorem Derives.or_of_negation (h : Derives .negation n ts e rest) :
    Derives (.chain .or) n ts e rest :=
  .chain_of_operand (c := .or) (.chain_of_operand (c := .and) h)

/-- A primary is a chain without links of every kind. -/
theorem Derives.or_of_primary (h : Derives .primary n ts e rest) :
    Derives (.chain .or) n ts e rest :=
  h.arith_of_primary.negation_of_arith.or_of_negation

theorem Derives.or_of_factor (h : Derives .factor n ts e rest) :
    Derives (.chain .or) n ts e rest :=
  (Derives.chain_of_operand (c := .arith) h.term_of_factor).negation_of_arith.or_of_negation

/-- An expression in parentheses. -/
theorem Derives.enclose (h : Derives (.chain .or) n ts e (.rightParen :: rest)) :
    Derives .primary (n + 1) (.leftParen :: ts) e rest :=
  .parens (.plain h)

theorem Derives.or_of_term (h : Derives (.chain .term) n ts e rest) :
    Derives (.chain .or) n ts e rest :=
  (Derives.chain_of_operand (c := .arith) h).negation_of_arith.or_of_negation

/-- Two primaries around an arithmetic operator are an expression, whose right side takes one
level more. -/
theorem derives_binary (op : BinaryOp) (hl : Derives .primary n ts l (op.token :: us))
    (hr : Derives .primary m us r rest) :
    Derives (.chain .or) (max n (m + 1)) ts (.binary op l r) rest := by
  have hsum {join : Expr → Expr → Expr} (hj : Joins .arith op.token join) :
      Derives (.chain .or) (max n (m + 1)) ts (join l r) rest :=
    (Derives.join hj hl.factor_of_primary.term_of_factor
      hr.factor_of_primary.term_of_factor).negation_of_arith.or_of_negation
  have hproduct {join : Expr → Expr → Expr} (hj : Joins .term op.token join) :
      Derives (.chain .or) (max n (m + 1)) ts (join l r) rest :=
    (Derives.join hj hl.factor_of_primary hr.factor_of_primary).or_of_term
  cases op with
  | add => exact hsum .add
  | sub => exact hsum .sub
  | mul => exact hproduct .mul
  | div => exact hproduct .div
  | floorDiv => exact hproduct .floorDiv
  | mod => exact hproduct .mod
  | pow => exact (Derives.unsigned (.pow hl hr.factor_of_primary)).or_of_factor

theorem derives_boolean (op : BoolOp) (hl : Derives .primary n ts l (op.token :: us))
    (hr : Derives .primary m us r rest) :
    Derives (.chain .or) (max n (m + 1)) ts (.boolean op l r) rest := by
  have hl := hl.arith_of_primary.negation_of_arith
  have hr := hr.arith_of_primary.negation_of_arith
  cases op with
  | and => exact .chain_of_operand (c := .or) (.join .and hl hr)
  | or =>
    exact .join .or (.chain_of_operand (c := .and) hl) (.chain_of_operand (c := .and) hr)

theorem derives_unary (op : UnaryOp) (h : Derives .primary n ts e rest) :
    Derives (.chain .or) (n + 1) (op.token :: ts) (.unary op e) rest := by
  cases op with
  | neg => exact (Derives.sign .minus h.factor_of_primary).or_of_factor
  | pos => exact (Derives.sign .plus h.factor_of_primary).or_of_factor
  | not => exact (Derives.not h.arith_of_primary.negation_of_arith).or_of_negation

end

/-- The parts of a name after its first word are joined to it. -/
theorem dotted_parts (word p : String) (parts : List String) (rest : List TokenKind) :
    Dotted word (.dot :: spellParts (p :: parts) rest)
      (word ++ "." ++ ".".intercalate (p :: parts)) rest := by
  induction parts generalizing word p with
  | nil =>
    rw [String.intercalate_singleton]
    exact .part .done
  | cons q parts ih =>
    have hname : word ++ "." ++ ".".intercalate (p :: q :: parts)
        = word ++ "." ++ p ++ "." ++ ".".intercalate (q :: parts) := by
      rw [String.intercalate_cons_cons, String.append_assoc, String.append_assoc,
        String.append_assoc, String.append_assoc, String.append_assoc]
    rw [hname]
    exact .part (ih (word ++ "." ++ p) q)

/-- The words of a name are a primary that takes no level. -/
theorem derives_parts {parts : List String} (h : parts ≠ []) (rest : List TokenKind) :
    Derives .primary 0 (spellParts parts rest) (.name (".".intercalate parts)) rest := by
  obtain ⟨p, parts, rfl⟩ := List.exists_cons_of_ne_nil h
  cases parts with
  | nil =>
    rw [String.intercalate_singleton]
    exact .name .done
  | cons q parts =>
    have hdotted := dotted_parts p q parts rest
    rw [String.intercalate_cons_cons]
    exact .name hdotted

mutual

/-- How many levels the canonical text of an expression nests. An operator nests one for its
parentheses, and one more for what stands after it. -/
def levels : Expr → Nat
  | .literal _ => 0
  | .name _ => 0
  | .source _ => 0
  | .unary _ e => levels e + 1 + 1
  | .binary _ l r => max (levels l) (levels r + 1) + 1
  | .chained first links => max (levels first) (linkLevels links) + 1
  | .boolean _ l r => max (levels l) (levels r + 1) + 1
  | .conditional body test orelse =>
    max (levels body) (max (levels test) (levels orelse + 1)) + 1
  | .call _ args => argLevels args

/-- How many levels the operands after the first of a chain nest. -/
def linkLevels : List (CompareOp × Expr) → Nat
  | [] => 0
  | (_, e) :: links => max (levels e) (linkLevels links)

/-- How many levels arguments nest. Each is an expression of its own. -/
def argLevels : List Expr → Nat
  | [] => 0
  | e :: args => max (levels e + 1) (argLevels args)

end

/-- The levels of links are bounded by their heights if those of their operands are. -/
theorem linkLevels_le {links : List (CompareOp × Expr)}
    (h : ∀ link ∈ links, levels link.2 ≤ 2 * height link.2) :
    linkLevels links ≤ 2 * linkHeight links := by
  induction links with
  | nil => exact Nat.le_refl 0
  | cons link links ih =>
    have hlink := h link List.mem_cons_self
    have hlinks := ih fun link hmem => h link (List.mem_cons_of_mem _ hmem)
    rw [linkLevels, linkHeight]
    omega

/-- The levels of arguments are bounded by their heights if those of the arguments are. -/
theorem argLevels_le {args : List Expr} (h : ∀ arg ∈ args, levels arg ≤ 2 * height arg) :
    argLevels args ≤ 2 * argHeight args + 1 := by
  induction args with
  | nil => exact Nat.zero_le _
  | cons arg args ih =>
    have harg := h arg List.mem_cons_self
    have hargs := ih fun arg hmem => h arg (List.mem_cons_of_mem _ hmem)
    rw [argLevels, argHeight]
    omega

/-- An expression takes at most two levels for each step of its height: one for the operator,
one for the parentheses. -/
theorem levels_le (e : Expr) : levels e ≤ 2 * height e := by
  induction e using rec_parts with
  | literal | name | source => exact Nat.le_refl 0
  | unary op e ih =>
    rw [levels, height]
    omega
  | binary op l r ihl ihr =>
    rw [levels, height]
    omega
  | chained first links ihf ihl =>
    have hlinks := linkLevels_le ihl
    rw [levels, height]
    omega
  | boolean op l r ihl ihr =>
    rw [levels, height]
    omega
  | conditional body test orelse ihb iht iho =>
    rw [levels, height]
    omega
  | call f args ih =>
    have hargs := argLevels_le ih
    rw [levels, height]
    omega

/-- The grammar derives an expression from its tokens, nesting the levels of its canonical
text. -/
def Nested (e : Expr) : Prop :=
  ∀ rest, Derives .primary (levels e) (spell e rest) e rest

theorem derives_links {links : List (CompareOp × Expr)} (h : ∀ link ∈ links, Nested link.2)
    (rest : List TokenKind) :
    Comparisons (linkLevels links) (spellLinks links rest) links rest := by
  induction links with
  | nil => exact .done
  | cons link links ih =>
    obtain ⟨op, e⟩ := link
    have he : Nested e := h _ List.mem_cons_self
    have hlinks := ih fun link hmem => h link (List.mem_cons_of_mem _ hmem)
    exact .link (compares_token op) (he _).arith_of_primary hlinks

theorem derives_moreArgs {e : Expr} {args : List Expr} (he : Nested e)
    (h : ∀ e ∈ args, Nested e) (rest : List TokenKind) :
    Arguments (argLevels (e :: args)) (spell e (spellMoreArgs args rest)) (e :: args) rest := by
  induction args generalizing e with
  | nil =>
    rw [argLevels, argLevels, Nat.max_zero]
    exact .last (.plain (he rest).or_of_primary)
  | cons f args ih =>
    have hargs := ih (h f List.mem_cons_self) fun e hmem => h e (List.mem_cons_of_mem _ hmem)
    rw [argLevels]
    exact .more (.plain (he _).or_of_primary) hargs

/-- The tokens of a well-formed expression are derived as a primary, with the levels that
`levels` counts. -/
theorem derives_levels {e : Expr} (h : WellFormed e) : Nested e := by
  -- one level is for the parentheses, the other for the operator inside them
  induction h with
  | int => exact fun rest => .constant (.int _)
  | float => exact fun rest => .constant (.float _)
  | str s => exact fun rest => .constant (.string s)
  | bool b => exact fun rest => .constant (constant_token (.bool b))
  | none => exact fun rest => .constant .noneWord
  | name hne hparts =>
    intro rest
    rw [spell, spellName_intercalate hne hparts]
    exact derives_parts hne rest
  | source key => exact fun rest => .lookup
  | unary op _ ih => exact fun rest => (derives_unary op (ih _)).enclose
  | binary op _ _ ihl ihr => exact fun rest => (derives_binary op (ihl _) (ihr _)).enclose
  | chained _ hne _ ihf ihl =>
    intro rest
    obtain ⟨link, links, rfl⟩ := List.exists_cons_of_ne_nil hne
    have hlinks := derives_links ihl (.rightParen :: rest)
    have hchain := Derives.compare (ihf _).arith_of_primary hlinks
    exact (Derives.comparison hchain).or_of_negation.enclose
  | boolean op _ _ ihl ihr => exact fun rest => (derives_boolean op (ihl _) (ihr _)).enclose
  | conditional _ _ _ ihb iht iho =>
    exact fun rest => .parens (.conditional (ihb _).or_of_primary (iht _).or_of_primary
      (.plain (iho _).or_of_primary))
  | @call f args harity _ ih =>
    -- no function can be called without arguments
    obtain ⟨e, args, rfl⟩ : ∃ e es, args = e :: es := by
      refine List.exists_cons_of_ne_nil ?_
      rintro rfl
      cases f <;> exact absurd harity.1 (by decide)
    have hargs := derives_moreArgs (ih e List.mem_cons_self)
      fun e hmem => ih e (List.mem_cons_of_mem _ hmem)
    exact fun rest => .call (hargs _) harity

/-- The grammar derives an expression from its tokens, nesting at most two levels for each
level of the tree. -/
def Derived (e : Expr) : Prop :=
  ∃ n ≤ 2 * height e, ∀ rest, Derives .primary n (spell e rest) e rest

/-- The grammar derives a well-formed expression, since its levels are bounded by its height. -/
theorem derives_spell {e : Expr} (h : WellFormed e) : Derived e :=
  ⟨levels e, levels_le e, derives_levels h⟩

/-! ## The round trip -/

/-- The lexer cuts the canonical text of a well-formed expression into the tokens of the
expression. -/
theorem kinds_tokenize_print {e : Expr} (h : WellFormed e) :
    (Lexer.tokenize (print e)).kinds = spell e [] := by
  have hspelled := kinds_print h [] ⟨.nil _, nofun⟩
  rw [List.append_nil, Lexer.kinds_nil] at hspelled
  rw [Lexer.kinds_tokenize, hspelled]

/-- The canonical text of a well-formed expression reads back as the expression, or is refused
because it nests too deeply; a tree of height at most 63 never is. -/
theorem parse_print {e : Expr} (h : WellFormed e) :
    (parse (print e) = .ok e ∨ NestsTooDeeply (Lexer.tokenize (print e))) ∧
    (height e ≤ 63 → parse (print e) = .ok e) := by
  obtain ⟨n, hn, hderived⟩ := derives_spell h
  have hwhole : Derives .expression (n + 1) (Lexer.tokenize (print e)).kinds e [] := by
    rw [kinds_tokenize_print h]
    exact .plain (hderived []).or_of_primary
  have hok (hshallow : n + 1 ≤ maxDepth) : parse (print e) = .ok e :=
    parseTokens_eq_ok_iff.mpr ⟨n + 1, hshallow, hwhole⟩
  have hlimit : maxDepth = 128 := rfl
  refine ⟨?_, fun hheight => hok (by omega)⟩
  by_cases hshallow : n + 1 ≤ maxDepth
  · exact .inl (hok hshallow)
  · exact .inr (nestsTooDeeply_of_deep hwhole (by omega))

/-- Two comparisons of a negated call, with a name that is also a function, a source with quotes
in its name, a whole number and a float, read back. -/
theorem parse_print_negated_call :
    let e : Expr := .chained
      (.unary .neg (.call .min [.name "abs.x", .source "a \"b\""]))
      [(.le, .literal (.int 5)), (.gt, .literal (.float 2.5))]
    WellFormed e ∧ height e ≤ 63 ∧ parse (print e) = .ok e := by
  have hname : WellFormed (.name "abs.x") := by
    have hparts : ∀ p ∈ ["abs", "x"], Identifier p := by
      intro p hp
      rcases List.mem_pair.mp hp with rfl | rfl
      · exact ⟨word_of_decide rfl rfl (by decide), by decide⟩
      · exact ⟨word_of_decide rfl rfl (by decide), by decide⟩
    exact WellFormed.name (List.cons_ne_nil _ _) hparts
  have hcall : WellFormed (.call .min [.name "abs.x", .source "a \"b\""]) := by
    refine .call ⟨by decide, nofun⟩ ?_
    intro e he
    rcases List.mem_pair.mp he with rfl | rfl
    · exact hname
    · exact .source _
  have hfloat : Number.decode 2.5 = .finite false (5 * 2 ^ 50) (-51) := by decide +kernel
  have hlinks : ∀ link ∈ [(CompareOp.le, Expr.literal (.int 5)), (.gt, .literal (.float 2.5))],
      WellFormed link.2 := by
    intro link hlink
    rcases List.mem_pair.mp hlink with rfl | rfl
    · exact .int (by decide) (by decide)
    · exact .float hfloat
  have hchained := WellFormed.chained (.unary .neg hcall) (List.cons_ne_nil _ _) hlinks
  exact ⟨hchained, by decide, (parse_print hchained).2 (by decide)⟩

end RowSignals.Expr
