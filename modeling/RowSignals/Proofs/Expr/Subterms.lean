import RowSignals.Expr.Eval

/-!
# Parts of expressions

Several traversals of an expression (its names, the check of its names, its evaluation) have to
visit the same parts. They are compared here with one relation, "is a part of".

* `Expr.rec_parts`: induction on an expression, with a hypothesis for every link of a chain and
  every argument of a call.
* `Part`: the parts of an expression, itself included.
* `mem_references_iff`: the references of an expression are the names among its parts.
* `eval_congr`: evaluation depends only on those names.
-/

namespace RowSignals.Expr

/-! ## Induction on the parts -/

/-- A statement holds of all expressions if it holds of every expression whose parts have it. -/
@[elab_as_elim]
theorem rec_parts {motive : Expr → Prop} (literal : ∀ value, motive (.literal value))
    (name : ∀ n, motive (.name n)) (source : ∀ n, motive (.source n))
    (unary : ∀ op e, motive e → motive (.unary op e))
    (binary : ∀ op l r, motive l → motive r → motive (.binary op l r))
    (chained : ∀ first links, motive first → (∀ link ∈ links, motive link.2) →
      motive (.chained first links))
    (boolean : ∀ op l r, motive l → motive r → motive (.boolean op l r))
    (conditional : ∀ body test orelse, motive body → motive test → motive orelse →
      motive (.conditional body test orelse))
    (call : ∀ f args, (∀ arg ∈ args, motive arg) → motive (.call f args)) (e : Expr) :
    motive e := by
  -- The recursor also ranges over links and arguments: a list has the statement if its items
  -- do.
  refine Expr.rec (motive_1 := motive) (motive_2 := fun links => ∀ link ∈ links, motive link.2)
    (motive_3 := fun args => ∀ arg ∈ args, motive arg) (motive_4 := fun link => motive link.2)
    literal name source unary binary chained boolean conditional call ?_ ?_ ?_ ?_ ?_ e
  · intro link hlink
    cases hlink
  · intro first links hfirst hlinks link hlink
    rcases List.mem_cons.mp hlink with rfl | hlink
    · exact hfirst
    · exact hlinks link hlink
  · intro arg harg
    cases harg
  · intro first args hfirst hargs arg harg
    rcases List.mem_cons.mp harg with rfl | harg
    · exact hfirst
    · exact hargs arg harg
  · intro op e he
    exact he

/-- `Part m e`: the expression `m` is `e` or stands somewhere in `e`. -/
inductive Part (m : Expr) : Expr → Prop
  | self : Part m m
  | operand {op : UnaryOp} {e : Expr} : Part m e → Part m (.unary op e)
  | left {op : BinaryOp} {l r : Expr} : Part m l → Part m (.binary op l r)
  | right {op : BinaryOp} {l r : Expr} : Part m r → Part m (.binary op l r)
  | first {first : Expr} {links : List (CompareOp × Expr)} :
    Part m first → Part m (.chained first links)
  | link {first : Expr} {links : List (CompareOp × Expr)} {link : CompareOp × Expr} :
    link ∈ links → Part m link.2 → Part m (.chained first links)
  | boolLeft {op : BoolOp} {l r : Expr} : Part m l → Part m (.boolean op l r)
  | boolRight {op : BoolOp} {l r : Expr} : Part m r → Part m (.boolean op l r)
  | body {body test orelse : Expr} : Part m body → Part m (.conditional body test orelse)
  | test {body test orelse : Expr} : Part m test → Part m (.conditional body test orelse)
  | orelse {body test orelse : Expr} : Part m orelse → Part m (.conditional body test orelse)
  | arg {f : Builtin} {args : List Expr} {arg : Expr} :
    arg ∈ args → Part m arg → Part m (.call f args)

/-! ## References -/

/-- The names in links are those of their operands in order. -/
theorem linkReferences_eq_flatMap (links : List (CompareOp × Expr)) :
    linkReferences links = links.flatMap fun link => references link.2 := by
  induction links with
  | nil => rfl
  | cons link links ih =>
    rw [List.flatMap_cons, ← ih]
    rfl

/-- The names in arguments are those of the arguments in order. -/
theorem argReferences_eq_flatMap (args : List Expr) :
    argReferences args = args.flatMap references := by
  induction args with
  | nil => rfl
  | cons arg args ih =>
    rw [List.flatMap_cons, ← ih]
    rfl

/-- `Reads e n`: the name `n` stands somewhere in `e`, bare or in a look-up. -/
def Reads (e : Expr) (n : String) : Prop :=
  Part (.name n) e ∨ Part (.source n) e

/-- What a part reads is read by the whole. -/
theorem Reads.mono {e whole : Expr} {n : String} (h : Reads e n)
    (hpart : ∀ m, Part m e → Part m whole) : Reads whole n :=
  h.imp (hpart _) (hpart _)

/-- The references of an expression are the names that stand in it. -/
theorem mem_references_iff {e : Expr} {n : String} : n ∈ e.references ↔ Reads e n := by
  constructor
  · intro h
    induction e using rec_parts with
    | literal value => cases h
    | name m =>
      obtain rfl := List.mem_singleton.mp h
      exact .inl .self
    | source m =>
      obtain rfl := List.mem_singleton.mp h
      exact .inr .self
    | unary op e ih => exact (ih h).mono fun _ => .operand
    | binary op l r ihl ihr =>
      rcases List.mem_append.mp h with h | h
      · exact (ihl h).mono fun _ => .left
      · exact (ihr h).mono fun _ => .right
    | chained first links ihf ihl =>
      rcases List.mem_append.mp h with h | h
      · exact (ihf h).mono fun _ => .first
      · rw [linkReferences_eq_flatMap, List.mem_flatMap] at h
        obtain ⟨link, hlink, h⟩ := h
        exact (ihl link hlink h).mono fun _ => .link hlink
    | boolean op l r ihl ihr =>
      rcases List.mem_append.mp h with h | h
      · exact (ihl h).mono fun _ => .boolLeft
      · exact (ihr h).mono fun _ => .boolRight
    | conditional body test orelse ihb iht iho =>
      rcases List.mem_append.mp h with h | h
      · exact (ihb h).mono fun _ => .body
      · rcases List.mem_append.mp h with h | h
        · exact (iht h).mono fun _ => .test
        · exact (iho h).mono fun _ => .orelse
    | call f args ih =>
      rw [references, argReferences_eq_flatMap, List.mem_flatMap] at h
      obtain ⟨arg, harg, h⟩ := h
      exact (ih arg harg h).mono fun _ => .arg harg
  · -- the part is kept, and the induction climbs from it to the whole
    have hclimb {m : Expr} (hm : n ∈ m.references) (h : Part m e) : n ∈ e.references := by
      induction h with
      | self => exact hm
      | operand _ ih => exact ih
      | left _ ih => exact List.mem_append_left _ ih
      | right _ ih => exact List.mem_append_right _ ih
      | first _ ih => exact List.mem_append_left _ ih
      | link hlink _ ih =>
        refine List.mem_append_right _ ?_
        rw [linkReferences_eq_flatMap]
        exact List.mem_flatMap.mpr ⟨_, hlink, ih⟩
      | boolLeft _ ih => exact List.mem_append_left _ ih
      | boolRight _ ih => exact List.mem_append_right _ ih
      | body _ ih => exact List.mem_append_left _ ih
      | test _ ih => exact List.mem_append_right _ (List.mem_append_left _ ih)
      | orelse _ ih => exact List.mem_append_right _ (List.mem_append_right _ ih)
      | arg harg _ ih =>
        rw [references, argReferences_eq_flatMap]
        exact List.mem_flatMap.mpr ⟨_, harg, ih⟩
    rintro (h | h)
    · exact hclimb List.mem_cons_self h
    · exact hclimb List.mem_cons_self h

/-! ## Evaluation depends only on the references -/

section
variable {sources others : Sources}

/-- Links have the same value in two environments if their operands have. -/
theorem evalLinks_congr {links : List (CompareOp × Expr)} (left : Value)
    (h : ∀ link ∈ links, link.2.eval sources = link.2.eval others) :
    evalLinks sources left links = evalLinks others left links := by
  induction links generalizing left with
  | nil => rfl
  | cons link links ih =>
    obtain ⟨op, e⟩ := link
    have hrest (right : Value) : evalLinks sources right links = evalLinks others right links :=
      ih right fun link hlink => h link (List.mem_cons_of_mem _ hlink)
    have he : e.eval sources = e.eval others := h _ List.mem_cons_self
    simp only [evalLinks, he, hrest]

theorem evalArgs_congr {args : List Expr}
    (h : ∀ arg ∈ args, arg.eval sources = arg.eval others) :
    evalArgs sources args = evalArgs others args := by
  induction args with
  | nil => rfl
  | cons arg args ih =>
    have hrest := ih fun other hother => h other (List.mem_cons_of_mem _ hother)
    simp only [evalArgs, h arg List.mem_cons_self, hrest]

/-- Sources that agree on the references of an expression give it the same value. -/
theorem eval_congr {e : Expr} (h : ∀ n ∈ e.references, sources.find? n = others.find? n) :
    e.eval sources = e.eval others := by
  -- The references of an expression are those of its parts, so the hypothesis goes down with
  -- them.
  induction e using rec_parts with
  | literal value => rfl
  | name n => simp only [eval, h n List.mem_cons_self]
  | source n => simp only [eval, h n List.mem_cons_self]
  | unary op e ih => simp only [eval, ih h]
  | binary op l r ihl ihr =>
    have hl := ihl fun n hn => h n (List.mem_append_left _ hn)
    have hr := ihr fun n hn => h n (List.mem_append_right _ hn)
    simp only [eval, hl, hr]
  | chained first links ihf ihl =>
    have hfirst := ihf fun n hn => h n (List.mem_append_left _ hn)
    have hlinks (left : Value) : evalLinks sources left links = evalLinks others left links := by
      refine evalLinks_congr left fun link hlink => ihl link hlink fun n hn => h n ?_
      rw [references, linkReferences_eq_flatMap]
      exact List.mem_append_right _ (List.mem_flatMap.mpr ⟨link, hlink, hn⟩)
    simp only [eval, hfirst, hlinks]
  | boolean op l r ihl ihr =>
    have hl := ihl fun n hn => h n (List.mem_append_left _ hn)
    have hr := ihr fun n hn => h n (List.mem_append_right _ hn)
    simp only [eval, hl, hr]
  | conditional body test orelse ihb iht iho =>
    have hbody := ihb fun n hn => h n (List.mem_append_left _ hn)
    have htest := iht fun n hn => h n (List.mem_append_right _ (List.mem_append_left _ hn))
    have horelse := iho fun n hn => h n (List.mem_append_right _ (List.mem_append_right _ hn))
    simp only [eval, hbody, htest, horelse]
  | call f args ih =>
    have hargs : evalArgs sources args = evalArgs others args := by
      refine evalArgs_congr fun arg harg => ih arg harg fun n hn => h n ?_
      rw [references, argReferences_eq_flatMap]
      exact List.mem_flatMap.mpr ⟨arg, harg, hn⟩
    simp only [eval, hargs]

end

end RowSignals.Expr
