import RowSignals.Expr.Eval
import RowSignals.Proofs.Expr.Grammar

/-!
# Explicit look-ups

Every bare name of an expression may be written as an explicit look-up. In the tree that changes
nothing but the kind of some leaves; in the tokens every dotted name gives way to four tokens.
Here the two are shown to agree.

* `explicit`: the tree with explicit look-ups; `references_explicit`, `eval_explicit`: it reads
  the same names and has the same values.
* `Resolved`: tokens in which every known dotted name is replaced by a look-up.
* `Derives.explicit`: what the resolved tokens of a phrase derive is its explicit tree.
-/

namespace RowSignals.Expr

/-! ## Trees -/

mutual

/-- The expression with an explicit look-up for every bare name. -/
def explicit : Expr → Expr
  | .literal value => .literal value
  | .name n => .source n
  | .source n => .source n
  | .unary op e => .unary op (explicit e)
  | .binary op l r => .binary op (explicit l) (explicit r)
  | .chained first links => .chained (explicit first) (explicitLinks links)
  | .boolean op l r => .boolean op (explicit l) (explicit r)
  | .conditional body test orelse =>
    .conditional (explicit body) (explicit test) (explicit orelse)
  | .call f args => .call f (explicitArgs args)

/-- The links of a chain with explicit look-ups. -/
def explicitLinks : List (CompareOp × Expr) → List (CompareOp × Expr)
  | [] => []
  | (op, e) :: links => (op, explicit e) :: explicitLinks links

/-- Arguments with explicit look-ups. -/
def explicitArgs : List Expr → List Expr
  | [] => []
  | e :: args => explicit e :: explicitArgs args

end

theorem length_explicitArgs (args : List Expr) : (explicitArgs args).length = args.length := by
  induction args with
  | nil => rfl
  | cons e args ih => exact congrArg (· + 1) ih

mutual

/-- Writing look-ups out does not change what is read. -/
theorem references_explicit : ∀ e : Expr, e.explicit.references = e.references
  | .literal _ => rfl
  | .name _ => rfl
  | .source _ => rfl
  | .unary _ e => references_explicit e
  | .binary _ l r => by
    simp only [explicit, references, references_explicit l, references_explicit r]
  | .chained first links => by
    simp only [explicit, references, references_explicit first, linkReferences_explicit links]
  | .boolean _ l r => by
    simp only [explicit, references, references_explicit l, references_explicit r]
  | .conditional body test orelse => by
    simp only [explicit, references, references_explicit body, references_explicit test,
      references_explicit orelse]
  | .call _ args => argReferences_explicit args

theorem linkReferences_explicit : ∀ links : List (CompareOp × Expr),
    linkReferences (explicitLinks links) = linkReferences links
  | [] => rfl
  | (_, e) :: links => by
    simp only [explicitLinks, linkReferences, references_explicit e, linkReferences_explicit links]

theorem argReferences_explicit : ∀ args : List Expr,
    argReferences (explicitArgs args) = argReferences args
  | [] => rfl
  | e :: args => by
    simp only [explicitArgs, argReferences, references_explicit e, argReferences_explicit args]

end

mutual

/-- A bare name and its look-up have the same value, and so have all expressions with them. -/
theorem eval_explicit (sources : Sources) : ∀ e : Expr, e.explicit.eval sources = e.eval sources
  | .literal _ => rfl
  | .name _ => by simp only [explicit, eval]
  | .source _ => rfl
  | .unary _ e => by simp only [explicit, eval, eval_explicit sources e]
  | .binary _ l r => by
    simp only [explicit, eval, eval_explicit sources l, eval_explicit sources r]
  | .chained first links => by
    simp only [explicit, eval, eval_explicit sources first, evalLinks_explicit sources links]
  | .boolean _ l r => by
    simp only [explicit, eval, eval_explicit sources l, eval_explicit sources r]
  | .conditional body test orelse => by
    simp only [explicit, eval, eval_explicit sources body, eval_explicit sources test,
      eval_explicit sources orelse]
  | .call _ args => by simp only [explicit, eval, evalArgs_explicit sources args]

/-- The links of a chain have the same value with look-ups written out, whatever stands before
them. -/
theorem evalLinks_explicit (sources : Sources) : ∀ (links : List (CompareOp × Expr)) (left : Value),
    evalLinks sources left (explicitLinks links) = evalLinks sources left links
  | [], _ => rfl
  | (_, e) :: links, left => by
    simp only [explicitLinks, evalLinks, eval_explicit sources e,
      evalLinks_explicit sources links]

theorem evalArgs_explicit (sources : Sources) : ∀ args : List Expr,
    evalArgs sources (explicitArgs args) = evalArgs sources args
  | [] => rfl
  | e :: args => by
    simp only [explicitArgs, evalArgs, eval_explicit sources e, evalArgs_explicit sources args]

end

/-! ## Tokens -/

/-- Tokens that are neither part of a name nor without a meaning. -/
def Kept : TokenKind → Prop
  | .identifier _ | .dot | .reserved _ | .assign | .invalid _ => False
  | _ => True

/-- The tokens that are kept may stand in an expression. -/
theorem Kept.admissible {t : TokenKind} (h : Kept t) : Admissible t := by
  cases t <;> trivial

theorem Kept.ne_dot {t : TokenKind} (h : Kept t) : t ≠ .dot := by
  rintro rfl
  exact h

/-- Tokens before which a name may end: no point goes on with it, no parenthesis calls it, and
nothing there is a number, which may start with a point, or no token. -/
def EndsName : List TokenKind → Prop
  | .dot :: _ | .leftParen :: _ | .int _ :: _ | .float _ :: _ | .invalid _ :: _ => False
  | _ => True

/-- `Resolved known ts us`: the tokens `us` are `ts` with an explicit look-up for every known
dotted name. The words of calls and of look-ups stay as they are. -/
inductive Resolved (known : List String) : List TokenKind → List TokenKind → Prop
  | nil : Resolved known [] []
  | kept {t : TokenKind} {ts us : List TokenKind} :
    Kept t → Resolved known ts us → Resolved known (t :: ts) (t :: us)
  | word {w : String} {t : TokenKind} {ts us : List TokenKind} : w ∉ known →
    t = .leftParen ∨ t = .leftBracket → Resolved known (t :: ts) us →
    Resolved known (.identifier w :: t :: ts) (.identifier w :: us)
  | reference {w name : String} {ts rest us : List TokenKind} :
    Dotted w ts name rest → name ∈ known → EndsName rest → Resolved known rest us →
    Resolved known (.identifier w :: ts)
      (.identifier sourcesName :: .leftBracket :: .string name :: .rightBracket :: us)

/-- No name is the word for look-ups or that of a function. -/
structure Unreserved (known : List String) : Prop where
  notSources : sourcesName ∉ known
  notBuiltin : ∀ f : Builtin, f.name ∉ known

/-! ## Derivations -/

section
variable {known : List String}

theorem Constant.kept {t : TokenKind} {value : Literal} (h : Constant t value) : Kept t := by
  cases h <;> trivial

theorem Signs.kept {t : TokenKind} {op : UnaryOp} (h : Signs t op) : Kept t := by
  cases h <;> trivial

theorem Compares.kept {t : TokenKind} {op : CompareOp} (h : Compares t op) : Kept t := by
  cases h <;> trivial

theorem Joins.kept {c : Chain} {t : TokenKind} {join : Expr → Expr → Expr} (h : Joins c t join) :
    Kept t := by
  cases h <;> trivial

/-- Operators keep the names of their operands, and explicit look-ups go past them. -/
theorem Joins.references {c : Chain} {t : TokenKind} {join : Expr → Expr → Expr}
    (h : Joins c t join) (l r : Expr) :
    (join l r).references = l.references ++ r.references ∧
      (join l r).explicit = join l.explicit r.explicit := by
  cases h <;> exact ⟨rfl, rfl⟩

/-- A name may end where a chain goes on. -/
theorem Links.endsName {c : Chain} {n : Nat} {left e : Expr} {ts rest : List TokenKind}
    (h : Links c n left ts e rest) (hrest : EndsName rest) : EndsName ts := by
  cases h with
  | done => exact hrest
  | link hj _ _ => cases hj <;> trivial

/-- In front of the operators of a comparison a name may end. -/
theorem Comparisons.endsName {n : Nat} {links : List (CompareOp × Expr)}
    {ts rest : List TokenKind} (h : Comparisons n ts links rest) (hrest : EndsName rest) :
    EndsName ts := by
  cases h with
  | done => exact hrest
  | link hc _ _ => cases hc <;> trivial

mutual

/-- With every known name resolved, the tokens of a phrase are one with the explicit tree. -/
theorem Derives.explicit (hwords : Unreserved known) {p : Phrase} {n : Nat}
    {ts rest us : List TokenKind} {e : Expr} :
    Derives p n ts e rest → e.references ⊆ known → EndsName rest → Resolved known rest us →
      ∃ vs, Resolved known ts vs ∧ Derives p n vs e.explicit us
  | .plain h, hknown, hends, hrest => by
    obtain ⟨vs, hvs, h⟩ := h.explicit hwords hknown hends hrest
    exact ⟨vs, hvs, .plain h⟩
  | .conditional hb ht ho, hknown, hends, hrest => by
    obtain ⟨hbody, hothers⟩ := List.append_subset.mp hknown
    obtain ⟨htest, horelse⟩ := List.append_subset.mp hothers
    -- tokens are resolved from the end, since a name ends where the rest allows it
    obtain ⟨xs, hxs, ho⟩ := ho.explicit hwords horelse hends hrest
    obtain ⟨ws, hws, ht⟩ := ht.explicit hwords htest trivial (.kept trivial hxs)
    obtain ⟨vs, hvs, hb⟩ := hb.explicit hwords hbody trivial (.kept trivial hws)
    exact ⟨vs, hvs, .conditional hb ht ho⟩
  | .chain hf hl, hknown, hends, hrest => by
    obtain ⟨hfirst, ws, hws, hl'⟩ := Links.explicit hwords hl hknown hends hrest
    obtain ⟨vs, hvs, hf⟩ := Derives.explicit hwords hf hfirst (hl.endsName hends) hws
    exact ⟨vs, hvs, .chain hf hl'⟩
  | .not h, hknown, hends, hrest => by
    obtain ⟨vs, hvs, h⟩ := h.explicit hwords hknown hends hrest
    exact ⟨_, .kept trivial hvs, .not h⟩
  | .comparison h, hknown, hends, hrest => by
    obtain ⟨vs, hvs, h⟩ := h.explicit hwords hknown hends hrest
    exact ⟨vs, hvs, .comparison h⟩
  | .single h, hknown, hends, hrest => by
    obtain ⟨vs, hvs, h⟩ := h.explicit hwords hknown hends hrest
    exact ⟨vs, hvs, .single h⟩
  | .compare hf hl, hknown, hends, hrest => by
    obtain ⟨hfirst, hlinks⟩ := List.append_subset.mp hknown
    obtain ⟨ws, hws, hl'⟩ := hl.explicit hwords hlinks hends hrest
    obtain ⟨vs, hvs, hf⟩ := hf.explicit hwords hfirst (hl.endsName hends) hws
    exact ⟨vs, hvs, .compare hf hl'⟩
  | .sign hs h, hknown, hends, hrest => by
    obtain ⟨vs, hvs, h⟩ := h.explicit hwords hknown hends hrest
    exact ⟨_, .kept hs.kept hvs, .sign hs h⟩
  | .unsigned h, hknown, hends, hrest => by
    obtain ⟨vs, hvs, h⟩ := h.explicit hwords hknown hends hrest
    exact ⟨vs, hvs, .unsigned h⟩
  | .base h, hknown, hends, hrest => by
    obtain ⟨vs, hvs, h⟩ := h.explicit hwords hknown hends hrest
    exact ⟨vs, hvs, .base h⟩
  | .pow hb he, hknown, hends, hrest => by
    obtain ⟨hbase, hexponent⟩ := List.append_subset.mp hknown
    obtain ⟨ws, hws, he⟩ := he.explicit hwords hexponent hends hrest
    obtain ⟨vs, hvs, hb⟩ := hb.explicit hwords hbase trivial (.kept trivial hws)
    exact ⟨vs, hvs, .pow hb he⟩
  | .constant hc, _, _, hrest => ⟨_, .kept hc.kept hrest, .constant hc⟩
  | .name hd, hknown, hends, hrest =>
    ⟨_, .reference hd (hknown List.mem_cons_self) hends hrest, .lookup⟩
  | .lookup, _, _, hrest => by
    refine ⟨_, .word hwords.notSources (.inr rfl) ?_, .lookup⟩
    exact .kept trivial (.kept trivial (.kept trivial hrest))
  | .call ha hcount, hknown, _, hrest => by
    obtain ⟨vs, hvs, ha⟩ := ha.explicit hwords hknown trivial (.kept trivial hrest)
    refine ⟨_, .word (hwords.notBuiltin _) (.inl rfl) (.kept trivial hvs), .call ha ?_⟩
    rwa [length_explicitArgs]
  | .parens h, hknown, _, hrest => by
    obtain ⟨vs, hvs, h⟩ := h.explicit hwords hknown trivial (.kept trivial hrest)
    exact ⟨_, .kept trivial hvs, .parens h⟩

/-- A chain keeps the names of what stands before its links. -/
theorem Links.explicit (hwords : Unreserved known) {c : Chain} {n : Nat} {left e : Expr}
    {ts rest us : List TokenKind} :
    Links c n left ts e rest → e.references ⊆ known → EndsName rest → Resolved known rest us →
      left.references ⊆ known ∧
        ∃ vs, Resolved known ts vs ∧ Links c n left.explicit vs e.explicit us
  | .done, hknown, _, hrest => ⟨hknown, _, hrest, .done⟩
  | .link hj hr hl, hknown, hends, hrest => by
    obtain ⟨hboth, ws, hws, hl'⟩ := hl.explicit hwords hknown hends hrest
    rw [(hj.references _ _).1] at hboth
    rw [(hj.references _ _).2] at hl'
    obtain ⟨hleft, hright⟩ := List.append_subset.mp hboth
    obtain ⟨vs, hvs, hr⟩ := Derives.explicit hwords hr hright (hl.endsName hends) hws
    exact ⟨hleft, _, .kept hj.kept hvs, .link hj hr hl'⟩

/-- The operands of a comparison are derived with look-ups written out. -/
theorem Comparisons.explicit (hwords : Unreserved known) {n : Nat}
    {links : List (CompareOp × Expr)} {ts rest us : List TokenKind} :
    Comparisons n ts links rest → linkReferences links ⊆ known → EndsName rest →
      Resolved known rest us →
      ∃ vs, Resolved known ts vs ∧ Comparisons n vs (explicitLinks links) us
  | .done, _, _, hrest => ⟨_, hrest, .done⟩
  | .link hc he hl, hknown, hends, hrest => by
    obtain ⟨hfirst, hlinks⟩ := List.append_subset.mp hknown
    obtain ⟨ws, hws, hl'⟩ := hl.explicit hwords hlinks hends hrest
    obtain ⟨vs, hvs, he⟩ := he.explicit hwords hfirst (hl.endsName hends) hws
    exact ⟨_, .kept hc.kept hvs, .link hc he hl'⟩

/-- The arguments of a call are derived with look-ups written out. -/
theorem Arguments.explicit (hwords : Unreserved known) {n : Nat} {args : List Expr}
    {ts rest us : List TokenKind} :
    Arguments n ts args rest → argReferences args ⊆ known → EndsName rest →
      Resolved known rest us →
      ∃ vs, Resolved known ts vs ∧ Arguments n vs (explicitArgs args) us
  | .done, _, _, hrest => ⟨_, hrest, .done⟩
  | .last he, hknown, hends, hrest => by
    obtain ⟨hfirst, -⟩ := List.append_subset.mp hknown
    obtain ⟨vs, hvs, he⟩ := he.explicit hwords hfirst hends hrest
    exact ⟨vs, hvs, .last he⟩
  | .more he ha, hknown, hends, hrest => by
    obtain ⟨hfirst, hargs⟩ := List.append_subset.mp hknown
    obtain ⟨ws, hws, ha⟩ := ha.explicit hwords hargs hends hrest
    obtain ⟨vs, hvs, he⟩ := he.explicit hwords hfirst trivial (.kept trivial hws)
    exact ⟨vs, hvs, .more he ha⟩

end

end

end RowSignals.Expr
