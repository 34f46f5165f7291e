import RowSignals.Expr.Compiled
import RowSignals.Proofs.Expr.Failures
import RowSignals.Proofs.Expr.Parsing
import RowSignals.Proofs.Results

/-!
# Compiled expressions read what they list

* `Derives.inArity`: in the trees of the grammar, every call has as many arguments as its
  function takes.
* `checkReferences_eq_ok_iff`: the check of names visits every part of an expression.
* `CompiledExpr.compile_reads_references`: a compiled expression reads its listed references and
  nothing else, and cannot fail on them.
-/

namespace RowSignals

/-! ## First occurrences -/

section
variable {α : Type} [BEq α] [LawfulBEq α]

/-- Each item of a list occurs once among its first occurrences, and no other item does. -/
theorem nodup_mem_firstOccurrences (items : List α) :
    (firstOccurrences items).Nodup ∧ ∀ x, x ∈ firstOccurrences items ↔ x ∈ items := by
  -- the induction is on the items that are left, beside those that were seen already
  have hfold (seen : List α) (hseen : seen.Nodup) :
      (items.foldl (fun seen item => if seen.contains item then seen else seen ++ [item])
        seen).Nodup ∧
      ∀ x, x ∈ items.foldl (fun seen item => if seen.contains item then seen else seen ++ [item])
        seen ↔ x ∈ seen ∨ x ∈ items := by
    induction items generalizing seen with
    | nil => exact ⟨hseen, by simp⟩
    | cons item items ih =>
      rw [List.foldl_cons]
      by_cases hitem : seen.contains item = true
      · rw [if_pos hitem]
        obtain ⟨hnodup, hmem⟩ := ih seen hseen
        refine ⟨hnodup, fun x => ?_⟩
        rw [hmem, List.mem_cons]
        constructor
        · exact Or.imp_right .inr
        · rintro (h | rfl | h)
          · exact .inl h
          · exact .inl (List.contains_iff_mem.mp hitem)
          · exact .inr h
      · rw [if_neg hitem]
        have hnew : item ∉ seen := fun h => hitem (List.contains_iff_mem.mpr h)
        have hseen : (seen ++ [item]).Nodup := by
          rw [List.nodup_append]
          refine ⟨hseen, List.nodup_cons.mpr ⟨List.not_mem_nil, .nil⟩, ?_⟩
          rintro x hx y hy rfl
          exact hnew (List.mem_singleton.mp hy ▸ hx)
        obtain ⟨hnodup, hmem⟩ := ih (seen ++ [item]) hseen
        refine ⟨hnodup, fun x => ?_⟩
        rw [hmem, List.mem_append, List.mem_singleton, List.mem_cons, or_assoc]
  obtain ⟨hnodup, hmem⟩ := hfold [] List.nodup_nil
  refine ⟨hnodup, fun x => ?_⟩
  rw [firstOccurrences, hmem]
  exact or_iff_right List.not_mem_nil

end

namespace Expr

/-! ## The number of arguments -/

/-- Every call in an expression has as many arguments as its function takes. -/
def CallsInArity (e : Expr) : Prop :=
  ∀ f args, Part (.call f args) e → InArity f args.length

/-- An expression without parts other than itself has no calls, unless it is one. -/
theorem CallsInArity.of_leaf {e : Expr} (h : ∀ f args, ¬ Part (.call f args) e) :
    CallsInArity e := by
  intro f args hpart
  exact absurd hpart (h f args)

theorem CallsInArity.unary {op : UnaryOp} {e : Expr} (h : CallsInArity e) :
    CallsInArity (.unary op e) := by
  intro f args hpart
  cases hpart with
  | operand hpart => exact h f args hpart

theorem CallsInArity.binary {op : BinaryOp} {l r : Expr} (hl : CallsInArity l)
    (hr : CallsInArity r) : CallsInArity (.binary op l r) := by
  intro f args hpart
  cases hpart with
  | left hpart => exact hl f args hpart
  | right hpart => exact hr f args hpart

theorem CallsInArity.boolean {op : BoolOp} {l r : Expr} (hl : CallsInArity l)
    (hr : CallsInArity r) : CallsInArity (.boolean op l r) := by
  intro f args hpart
  cases hpart with
  | boolLeft hpart => exact hl f args hpart
  | boolRight hpart => exact hr f args hpart

theorem CallsInArity.chained {first : Expr} {links : List (CompareOp × Expr)}
    (hf : CallsInArity first) (hl : ∀ link ∈ links, CallsInArity link.2) :
    CallsInArity (.chained first links) := by
  intro f args hpart
  cases hpart with
  | first hpart => exact hf f args hpart
  | link hlink hpart => exact hl _ hlink f args hpart

theorem CallsInArity.conditional {body test orelse : Expr} (hb : CallsInArity body)
    (ht : CallsInArity test) (ho : CallsInArity orelse) :
    CallsInArity (.conditional body test orelse) := by
  intro f args hpart
  cases hpart with
  | body hpart => exact hb f args hpart
  | test hpart => exact ht f args hpart
  | orelse hpart => exact ho f args hpart

theorem CallsInArity.call {f : Builtin} {args : List Expr} (harity : InArity f args.length)
    (h : ∀ arg ∈ args, CallsInArity arg) : CallsInArity (.call f args) := by
  intro g others hpart
  cases hpart with
  | self => exact harity
  | arg harg hpart => exact h _ harg g others hpart

/-- An operation calls functions with as many arguments as they take if both sides do. -/
theorem Joins.callsInArity {c : Chain} {t : TokenKind} {join : Expr → Expr → Expr} {l r : Expr}
    (h : Joins c t join) (hl : CallsInArity l) (hr : CallsInArity r) :
    CallsInArity (join l r) := by
  cases h with
  | or | and => exact hl.boolean hr
  | add | sub | mul | div | floorDiv | mod => exact hl.binary hr

mutual

theorem Derives.inArity {p : Phrase} {n : Nat} {ts rest : List TokenKind} {e : Expr} :
    Derives p n ts e rest → CallsInArity e
  | .plain h => h.inArity
  | .conditional hb ht ho => hb.inArity.conditional ht.inArity ho.inArity
  | .chain hf hl => hl.inArity hf.inArity
  | .not h => h.inArity.unary
  | .comparison h => h.inArity
  | .single h => h.inArity
  | .compare hf hl => hf.inArity.chained hl.inArity
  | .sign _ h => h.inArity.unary
  | .unsigned h => h.inArity
  | .base h => h.inArity
  | .pow hb he => hb.inArity.binary he.inArity
  | .constant _ => .of_leaf nofun
  | .name _ => .of_leaf nofun
  | .lookup => .of_leaf nofun
  | .call ha harity => .call harity ha.inArity
  | .parens h => h.inArity

theorem Links.inArity {c : Chain} {n : Nat} {left e : Expr} {ts rest : List TokenKind} :
    Links c n left ts e rest → CallsInArity left → CallsInArity e
  | .done => id
  | .link hj hr hl => fun hleft => hl.inArity (hj.callsInArity hleft hr.inArity)

theorem Comparisons.inArity {n : Nat} {ts rest : List TokenKind}
    {links : List (CompareOp × Expr)} :
    Comparisons n ts links rest → ∀ link ∈ links, CallsInArity link.2
  | .done => nofun
  | .link _ he hl => List.forall_mem_cons.mpr ⟨he.inArity, hl.inArity⟩

theorem Arguments.inArity {n : Nat} {ts rest : List TokenKind} {args : List Expr} :
    Arguments n ts args rest → ∀ arg ∈ args, CallsInArity arg
  | .done => nofun
  | .last he => List.forall_mem_singleton.mpr he.inArity
  | .more he ha => List.forall_mem_cons.mpr ⟨he.inArity, ha.inArity⟩

end

/-- What is read from a text has only calls in arity. -/
theorem callsInArity_of_parse {source : String} {e : Expr} (h : parse source = .ok e) :
    CallsInArity e := by
  obtain ⟨n, -, hderives⟩ := parseTokens_eq_ok_iff.mp h
  exact hderives.inArity

/-- No function can be called without arguments. -/
theorem InArity.pos {f : Builtin} {count : Nat} (h : InArity f count) : 0 < count := by
  have hlow : 0 < f.arity.1 := by cases f <;> decide
  exact Nat.lt_of_lt_of_le hlow h.1

/-! ## The check of names -/

/-- Whether a part resolves: a bare name has to be known and allowed, a looked up one known. -/
def Resolves (known : List String) (resolution : Resolution) : Expr → Prop
  | .name n => resolution = .bare ∧ n ∈ known
  | .source n => n ∈ known
  | _ => True

section
variable {known : List String} {resolution : Resolution}

/-- A name passes the check if it is known and, when it is bare, if bare names are allowed. -/
theorem checkName_eq_ok_iff {bare : Bool} {n : String} :
    checkName known resolution bare n = .ok () ↔
      (bare = true → resolution = .bare) ∧ n ∈ known := by
  cases resolution
  all_goals
    cases bare
    all_goals simp [checkName]

theorem checkLinks_eq_ok {links : List (CompareOp × Expr)}
    (h : checkLinks known resolution links = .ok ()) :
    ∀ link ∈ links, checkReferences known resolution link.2 = .ok () := by
  induction links with
  | nil =>
    intro link hlink
    cases hlink
  | cons link links ih =>
    obtain ⟨⟨⟩, hfirst, hrest⟩ := bind_eq_ok.mp h
    intro other hother
    rcases List.mem_cons.mp hother with rfl | hother
    · exact hfirst
    · exact ih hrest other hother

/-- If arguments pass the check, so does each of them. -/
theorem checkArgs_eq_ok {args : List Expr} (h : checkArgs known resolution args = .ok ()) :
    ∀ arg ∈ args, checkReferences known resolution arg = .ok () := by
  induction args with
  | nil =>
    intro arg harg
    cases harg
  | cons arg args ih =>
    obtain ⟨⟨⟩, hfirst, hrest⟩ := bind_eq_ok.mp h
    intro other hother
    rcases List.mem_cons.mp hother with rfl | hother
    · exact hfirst
    · exact ih hrest other hother

/-- An expression that passes the check has only parts that pass it. -/
theorem checkReferences_of_part {e m : Expr} (hpart : Part m e)
    (h : checkReferences known resolution e = .ok ()) :
    checkReferences known resolution m = .ok () := by
  -- Along the path to the part: the operand that it goes through has passed as well.
  induction hpart with
  | self => exact h
  | operand _ ih => exact ih h
  | left _ ih =>
    obtain ⟨⟨⟩, hl, -⟩ := bind_eq_ok.mp h
    exact ih hl
  | right _ ih =>
    obtain ⟨⟨⟩, -, hr⟩ := bind_eq_ok.mp h
    exact ih hr
  | first _ ih =>
    obtain ⟨⟨⟩, hfirst, -⟩ := bind_eq_ok.mp h
    exact ih hfirst
  | link hlink _ ih =>
    obtain ⟨⟨⟩, -, hlinks⟩ := bind_eq_ok.mp h
    exact ih (checkLinks_eq_ok hlinks _ hlink)
  | boolLeft _ ih =>
    obtain ⟨⟨⟩, hl, -⟩ := bind_eq_ok.mp h
    exact ih hl
  | boolRight _ ih =>
    obtain ⟨⟨⟩, -, hr⟩ := bind_eq_ok.mp h
    exact ih hr
  | body _ ih =>
    obtain ⟨⟨⟩, hbody, -⟩ := bind_eq_ok.mp h
    exact ih hbody
  | test _ ih =>
    obtain ⟨⟨⟩, -, h⟩ := bind_eq_ok.mp h
    obtain ⟨⟨⟩, htest, -⟩ := bind_eq_ok.mp h
    exact ih htest
  | orelse _ ih =>
    obtain ⟨⟨⟩, -, h⟩ := bind_eq_ok.mp h
    obtain ⟨⟨⟩, -, horelse⟩ := bind_eq_ok.mp h
    exact ih horelse
  | arg harg _ ih => exact ih (checkArgs_eq_ok h _ harg)

theorem checkLinks_of_all {links : List (CompareOp × Expr)}
    (h : ∀ link ∈ links, checkReferences known resolution link.2 = .ok ()) :
    checkLinks known resolution links = .ok () := by
  induction links with
  | nil => rfl
  | cons link links ih =>
    have hrest := ih fun other hother => h other (List.mem_cons_of_mem _ hother)
    exact bind_eq_ok.mpr ⟨(), h link List.mem_cons_self, hrest⟩

theorem checkArgs_of_all {args : List Expr}
    (h : ∀ arg ∈ args, checkReferences known resolution arg = .ok ()) :
    checkArgs known resolution args = .ok () := by
  induction args with
  | nil => rfl
  | cons arg args ih =>
    have hrest := ih fun other hother => h other (List.mem_cons_of_mem _ hother)
    exact bind_eq_ok.mpr ⟨(), h arg List.mem_cons_self, hrest⟩

/-- The check of names passes just the expressions of which every part resolves. -/
theorem checkReferences_eq_ok_iff {e : Expr} :
    checkReferences known resolution e = .ok () ↔
      ∀ m, Part m e → Resolves known resolution m := by
  constructor
  · intro h m hpart
    have hm := checkReferences_of_part hpart h
    cases m with
    | name n =>
      obtain ⟨hbare, hknown⟩ := checkName_eq_ok_iff.mp hm
      exact ⟨hbare rfl, hknown⟩
    | source n => exact (checkName_eq_ok_iff.mp hm).2
    | _ => trivial
  · intro h
    -- What holds of all parts of an expression holds of those of its operands.
    induction e using rec_parts with
    | literal value => rfl
    | name n =>
      obtain ⟨hbare, hknown⟩ := h _ .self
      exact checkName_eq_ok_iff.mpr ⟨fun _ => hbare, hknown⟩
    | source n => exact checkName_eq_ok_iff.mpr ⟨nofun, h _ .self⟩
    | unary op e ih => exact ih fun m hm => h m (.operand hm)
    | binary op l r ihl ihr =>
      exact bind_eq_ok.mpr ⟨(), ihl fun m hm => h m (.left hm), ihr fun m hm => h m (.right hm)⟩
    | chained first links ihf ihl =>
      have hlinks := checkLinks_of_all fun link hlink =>
        ihl link hlink fun m hm => h m (.link hlink hm)
      exact bind_eq_ok.mpr ⟨(), ihf fun m hm => h m (.first hm), hlinks⟩
    | boolean op l r ihl ihr =>
      exact bind_eq_ok.mpr
        ⟨(), ihl fun m hm => h m (.boolLeft hm), ihr fun m hm => h m (.boolRight hm)⟩
    | conditional body test orelse ihb iht iho =>
      refine bind_eq_ok.mpr ⟨(), ihb fun m hm => h m (.body hm), ?_⟩
      exact bind_eq_ok.mpr
        ⟨(), iht fun m hm => h m (.test hm), iho fun m hm => h m (.orelse hm)⟩
    | call f args ih =>
      exact checkArgs_of_all fun arg harg => ih arg harg fun m hm => h m (.arg harg hm)

end

end Expr

/-! ## Compiled expressions -/

namespace CompiledExpr

open RowSignals.Expr (Part Reads InArity CallsInArity Resolves)

/-- The text that is parsed. -/
def parsedText (source : String) (known : List String) : Resolution → String
  | .explicit => source
  | .bare => Names.resolveNames known source

section
variable {source : String} {known : List String} {resolution : Resolution}
  {compiled : CompiledExpr}

/-- All that compilation says about its result: the tree was read from the text that is parsed,
its parts resolve, and the references are those of the tree. -/
theorem compile_eq_ok_iff : compile source known resolution = .ok compiled ↔
    Expr.parse (parsedText source known resolution) = .ok compiled.ast ∧
      (∀ m, Part m compiled.ast → Resolves known resolution m) ∧
      compiled.source = source ∧
      compiled.references = firstOccurrences compiled.ast.references := by
  constructor
  · intro h
    unfold compile at h
    dsimp only at h
    split at h
    · cases h
    · rename_i ast hparse
      split at h
      · cases h
      · rename_i hcheck
        cases h
        exact ⟨hparse, Expr.checkReferences_eq_ok_iff.mp hcheck, rfl, rfl⟩
  · rintro ⟨hparse, hresolves, rfl, hreferences⟩
    have hcheck := Expr.checkReferences_eq_ok_iff.mpr hresolves
    cases resolution
    all_goals
      dsimp only [parsedText] at hparse
      simp only [compile, hparse, hcheck, ← hreferences]

/-- The references of a compiled expression are the names that stand in its tree. -/
theorem mem_references_iff (h : compile source known resolution = .ok compiled) {n : String} :
    n ∈ compiled.references ↔ Reads compiled.ast n := by
  rw [(compile_eq_ok_iff.mp h).2.2.2, (nodup_mem_firstOccurrences _).2, Expr.mem_references_iff]

theorem references_known (h : compile source known resolution = .ok compiled) {n : String}
    (hn : n ∈ compiled.references) : n ∈ known := by
  obtain ⟨-, hresolves, -⟩ := compile_eq_ok_iff.mp h
  rcases (mem_references_iff h).mp hn with hname | hsource
  · exact (hresolves _ hname).2
  · exact hresolves _ hsource

/-- A compiled expression calls functions with as many arguments as they take. -/
theorem callsInArity (h : compile source known resolution = .ok compiled) :
    CallsInArity compiled.ast := by
  obtain ⟨hparse, -⟩ := compile_eq_ok_iff.mp h
  exact Expr.callsInArity_of_parse hparse

/-- The only error about a name is that of a reference that is not bound. -/
theorem eval_error (h : compile source known resolution = .ok compiled) {sources : Sources}
    {error : Expr.EvalError} (herror : compiled.eval sources = .error error) :
    error.OfValues ∨
      ∃ n ∈ compiled.references, sources.find? n = none ∧ error = .missingSource n := by
  rcases Expr.eval_blames herror with hvalues | ⟨n, hreads, hnone, herror⟩ | ⟨f, hcall, -⟩
  · exact .inl hvalues
  · exact .inr ⟨n, (mem_references_iff h).mpr hreads, hnone, herror⟩
  · exact absurd (callsInArity h f [] hcall).pos (Nat.lt_irrefl 0)

/-- Sources that agree on the references give a compiled expression the same value. -/
theorem eval_congr (h : compile source known resolution = .ok compiled) {sources others : Sources}
    (hagree : ∀ n ∈ compiled.references, sources.find? n = others.find? n) :
    compiled.eval sources = compiled.eval others := by
  refine Expr.eval_congr fun n hn => hagree n ?_
  exact (mem_references_iff h).mpr (Expr.mem_references_iff.mp hn)

/-- A compiled expression reads exactly its listed references, each listed once and known. With
explicit look-ups no name stands bare, and every call has as many arguments as its function
takes. Where all references are bound, evaluation fails neither on a name nor on missing
arguments; and only their values matter. -/
theorem compile_reads_references (h : compile source known resolution = .ok compiled) :
    compiled.references.Nodup ∧
    (∀ n ∈ compiled.references, n ∈ known) ∧
    (∀ n, n ∈ compiled.references ↔ Reads compiled.ast n) ∧
    (resolution = .explicit → ∀ n, ¬ Part (.name n) compiled.ast) ∧
    (∀ f args, Part (.call f args) compiled.ast → InArity f args.length) ∧
    (∀ sources, (∀ n ∈ compiled.references, ∃ v, sources.find? n = some v) →
      (∀ n, compiled.eval sources ≠ .error (.missingSource n)) ∧
      ∀ function, compiled.eval sources ≠ .error (.type (.noArgument function))) ∧
    ∀ sources others, (∀ n ∈ compiled.references, sources.find? n = others.find? n) →
      compiled.eval sources = compiled.eval others := by
  obtain ⟨-, hresolves, -, hreferences⟩ := compile_eq_ok_iff.mp h
  refine ⟨?_, fun n => references_known h, fun n => mem_references_iff h, ?_, callsInArity h, ?_,
    fun sources others => eval_congr h⟩
  · rw [hreferences]
    exact (nodup_mem_firstOccurrences _).1
  · intro hexplicit n hpart
    obtain ⟨hbare, -⟩ := hresolves _ hpart
    cases hexplicit.symm.trans hbare
  · intro sources hbound
    -- an error about a name would be about a reference, and those are bound
    have hvalues {error : Expr.EvalError} (herror : compiled.eval sources = .error error) :
        error.OfValues := by
      rcases eval_error h herror with hvalues | ⟨n, hn, hnone, -⟩
      · exact hvalues
      · obtain ⟨v, hv⟩ := hbound n hn
        cases hnone.symm.trans hv
    exact ⟨fun n herror => hvalues herror, fun function herror => hvalues herror⟩

end

/-- A comparison of a call with a bare name and of an explicit look-up. Two sources are read,
and sources that differ elsewhere give the same value. -/
theorem compile_reads_references_comparison :
    let source := "max(a.b, 1) <= SOURCES[\"c-d\"]"
    let compiled : CompiledExpr := {
      source := source
      ast := .chained (.call .max [.source "a.b", .literal (.int 1)]) [(.le, .source "c-d")]
      references := ["a.b", "c-d"] }
    compile source ["a", "a.b", "c-d"] .bare = .ok compiled ∧
      compiled.eval [("a.b", .int 3), ("c-d", .int 4)]
        = compiled.eval [("a", .null), ("c-d", .int 4), ("a.b", .int 3)] := by
  intro source compiled
  have hresolve : Names.resolveNames ["a", "a.b", "c-d"] source
      = "max(SOURCES[\"a.b\"], 1) <= SOURCES[\"c-d\"]" := by decide +kernel
  have hparse : Expr.parse "max(SOURCES[\"a.b\"], 1) <= SOURCES[\"c-d\"]" = .ok compiled.ast := by
    cbv
  have h : compile source ["a", "a.b", "c-d"] .bare = .ok compiled := by
    simp only [compile, hresolve, hparse]
    rfl
  refine ⟨h, (compile_reads_references h).2.2.2.2.2.2 _ _ ?_⟩
  intro n hn
  rcases List.mem_pair.mp hn with rfl | rfl
  · rfl
  · rfl

end CompiledExpr

end RowSignals
