import Mathlib
import RowSignals.Expr.Eval

/-!
# Comparing values without floats

Equality and order of values are found in two different ways, and still belong together as long as
no float is among the values.

* `FloatFree`: values without floats, at any depth.
* `plain`: a value in a form that equal values share; `sameValue_iff_plain`.
* `Class`: numbers, texts and timestamps; `Class.exists_key`: the values of a class are ordered by
  a key, and are equal if their keys are.
* `Leftmost`: the first of the values that no other one comes before; `extreme_of_keyed`,
  `extreme_of_stray`.
* `comparison_coherent`: what follows for the operators and for `min` and `max`.
-/

namespace RowSignals

/-- Whether a comparison holds of values in the given order. -/
def CompareOp.holds (op : CompareOp) (o : Ordering) : Bool :=
  match op with
  | .eq => o == .eq
  | .ne => o != .eq
  | .lt => o == .lt
  | .le => o != .gt
  | .gt => o == .gt
  | .ge => o != .lt

/-- Whether a comparison asks for an order. -/
def CompareOp.isOrder : CompareOp → Bool
  | .eq | .ne => false
  | .lt | .le | .gt | .ge => true

/-- The comparison by which a function picks one of its arguments. -/
def Builtin.picksBy? : Builtin → Option CompareOp
  | .min => some .lt
  | .max => some .gt
  | _ => none

namespace Expr

/-- A value that is no float and holds none. -/
inductive FloatFree : Value → Prop
  | null : FloatFree .null
  | bool (b : Bool) : FloatFree (.bool b)
  | int (i : Int) : FloatFree (.int i)
  | str (s : String) : FloatFree (.str s)
  | zoned (instant : Calendar.Instant) (offset : Int) : FloatFree (.zoned instant offset)
  | naive (clock : Calendar.Instant) : FloatFree (.naive clock)
  | list {items : List Value} : (∀ item ∈ items, FloatFree item) → FloatFree (.list items)

/-! ## Equality -/

mutual

/-- A value with whole numbers for flags and without the offsets of timestamps. -/
def plain : Value → Value
  | .bool b => .int (if b then 1 else 0)
  | .zoned instant _ => .naive instant
  | .list items => .list (plains items)
  | v => v
termination_by structural v => v

/-- The values of a list in this form. -/
def plains : List Value → List Value
  | [] => []
  | item :: items => plain item :: plains items
termination_by structural items => items

end

/-- Two lists are equal if they have equal items, one by one. -/
theorem sameValues_iff_plains {items : List Value}
    (h : ∀ item ∈ items, ∀ other, FloatFree other →
      (sameValue item other = true ↔ plain item = plain other))
    {others : List Value} (hothers : ∀ other ∈ others, FloatFree other) :
    sameValues items others = true ↔ plains items = plains others := by
  induction items generalizing others with
  | nil => cases others <;> simp [sameValues, plains]
  | cons item items ih =>
    cases others with
    | nil => simp [sameValues, plains]
    | cons other others =>
      obtain ⟨hitem, hitems⟩ := List.forall_mem_cons.mp h
      obtain ⟨hother, hothers⟩ := List.forall_mem_cons.mp hothers
      rw [sameValues, Bool.and_eq_true, hitem other hother, ih hitems hothers, plains, plains,
        List.cons.injEq]

/-- Values are equal if they have the same plain form. -/
theorem sameValue_iff_plain {a b : Value} (ha : FloatFree a) (hb : FloatFree b) :
    sameValue a b = true ↔ plain a = plain b := by
  induction ha generalizing b with
  | list _ ih =>
    cases hb with
    | list hothers =>
      rw [plain, plain, Value.list.injEq, sameValue]
      exact sameValues_iff_plains (fun item hitem other => ih item hitem) hothers
    | _ => simp [sameValue, plain, Num.of?, Value.utc?]
  | _ =>
    cases hb <;> simp [sameValue, plain, Num.of?, Value.utc?]

/-! ## Order -/

/-- The kinds of values that are ordered among each other. -/
inductive Class where
  | number
  | text
  | time
  deriving DecidableEq

/-- The class of a value, if it has one. -/
def Class.of? : Value → Option Class
  | .bool _ | .int _ | .float _ => some .number
  | .str _ => some .text
  | .zoned _ _ | .naive _ => some .time
  | .null | .list _ => none

/-- Two values of one class. -/
def SameClass (a b : Value) : Prop :=
  ∃ c, Class.of? a = some c ∧ Class.of? b = some c

/-- The whole number that a value stands for. -/
def wholeKey : Value → Int
  | .bool b => if b then 1 else 0
  | .int i => i
  | _ => 0

/-- The text that a value is. -/
def textKey : Value → String
  | .str s => s
  | _ => ""

/-- The instant of a timestamp; the seconds count before the fraction. -/
def timeKey (v : Value) : Int ×ₗ Nat :=
  let instant := v.utc?.getD ⟨0, 0⟩
  toLex (instant.seconds, instant.nanos)

/-- The values are compared by their keys. -/
structure KeyedBy {K : Type} [LinearOrder K] (key : Value → K) (a b : Value) : Prop where
  order : ∀ symbol, ordering? symbol a b = .ok (some (compare (key a) (key b)))
  same : sameValue a b = true ↔ key a = key b

/-- Instants are ordered by seconds and then by nanoseconds. -/
theorem instantOrdering_eq (i j : Calendar.Instant) :
    instantOrdering i j = compare (toLex (i.seconds, i.nanos)) (toLex (j.seconds, j.nanos)) := by
  rw [Prod.Lex.compare_def]
  rfl

theorem keyedBy_time {a b : Value} {i j : Calendar.Instant} (ha : a.utc? = some i)
    (hb : b.utc? = some j) : KeyedBy timeKey a b := by
  have hkeys : timeKey a = timeKey b ↔ i = j := by
    obtain ⟨seconds, nanos⟩ := i
    obtain ⟨otherSeconds, otherNanos⟩ := j
    simp [timeKey, ha, hb]
  constructor
  · intro symbol
    rw [timeKey, timeKey, ha, hb, Option.getD_some, Option.getD_some, ← instantOrdering_eq]
    cases a <;> cases ha <;> cases b <;> cases hb <;> rfl
  · rw [hkeys]
    cases a <;> cases ha <;> cases b <;> cases hb <;> simp [sameValue, Num.of?, Value.utc?]

/-- The values of a class are ordered by a key. -/
theorem Class.exists_key (c : Class) : ∃ (K : Type) (_ : LinearOrder K) (key : Value → K),
    ∀ a b, FloatFree a → FloatFree b → of? a = some c → of? b = some c → KeyedBy key a b := by
  cases c with
  | number =>
    refine ⟨Int, inferInstance, wholeKey, fun a b ha hb hclass hother => ?_⟩
    cases ha <;> cases hclass <;> cases hb <;> cases hother <;>
      exact ⟨fun _ => rfl, by simp [sameValue, Num.of?, wholeKey]⟩
  | text =>
    refine ⟨String, inferInstance, textKey, fun a b ha hb hclass hother => ?_⟩
    cases ha <;> cases hclass
    cases hb <;> cases hother
    exact ⟨fun _ => rfl, by simp [sameValue, textKey]⟩
  | time =>
    refine ⟨Int ×ₗ Nat, inferInstance, timeKey, fun a b ha hb hclass hother => ?_⟩
    cases ha <;> cases hclass <;> cases hb <;> cases hother <;> exact keyedBy_time rfl rfl

theorem ordering?_of_sameClass {a b : Value} (h : SameClass a b) (symbol : String) :
    ∃ o, ordering? symbol a b = .ok o := by
  obtain ⟨c, ha, hb⟩ := h
  cases a <;> cases ha <;> cases b <;> cases hb <;> exact ⟨_, rfl⟩

/-- Numbers and booleans are of the class of numbers. -/
theorem Class.of?_of_num {v : Value} {x : Num} (h : Num.of? v = some x) :
    of? v = some .number := by
  cases v <;> cases h <;> rfl

theorem Class.of?_of_utc {v : Value} {i : Calendar.Instant} (h : v.utc? = some i) :
    of? v = some .time := by
  cases v <;> cases h <;> rfl

/-- Values that are not of one class have no order. -/
theorem ordering?_of_apart {a b : Value} (h : ¬ SameClass a b) (symbol : String) :
    ordering? symbol a b = .error (.type (.notOrdered symbol a.typeName b.typeName)) := by
  unfold ordering?
  split
  · rename_i ha hb
    exact absurd ⟨.number, Class.of?_of_num ha, Class.of?_of_num hb⟩ h
  · rename_i ha hb
    exact absurd ⟨.number, Class.of?_of_num ha, Class.of?_of_num hb⟩ h
  · split
    · exact absurd ⟨.text, rfl, rfl⟩ h
    · split
      · rename_i ha hb
        exact absurd ⟨.time, Class.of?_of_utc ha, Class.of?_of_utc hb⟩ h
      · rfl

/-! ## Operators -/

/-- Where keys decide equality and order, they decide every operator. -/
theorem KeyedBy.compareValues {K : Type} [LinearOrder K] {key : Value → K} {a b : Value}
    (h : KeyedBy key a b) (op : CompareOp) :
    compareValues op a b = .ok (op.holds (compare (key a) (key b))) := by
  have hsame : sameValue a b = (compare (key a) (key b) == .eq) := by
    rw [Bool.eq_iff_iff, h.same, beq_iff_eq, compare_eq_iff_eq]
  cases op with
  | eq => exact congrArg Except.ok hsame
  | ne => exact congrArg (fun same => Except.ok !same) hsame
  | _ =>
    rw [Expr.compareValues, h.order]
    cases compare (key a) (key b) <;> rfl

/-- Values that no class holds both are ordered by no operator. -/
theorem compareValues_of_apart {a b : Value} (h : ¬ SameClass a b) {op : CompareOp}
    (hop : op.isOrder = true) :
    compareValues op a b = .error (.type (.notOrdered op.symbol a.typeName b.typeName)) := by
  cases op with
  | eq => cases hop
  | ne => cases hop
  | _ =>
    rw [compareValues, ordering?_of_apart h]
    rfl

/-! ## The first of the extreme values -/

/-- The value comes before all values on its left, and no value on its right comes before it. -/
def Leftmost (comes : Value → Value → Prop) (values : List Value) (v : Value) : Prop :=
  ∃ before after, values = before ++ v :: after ∧ (∀ u ∈ before, comes v u) ∧
    ∀ u ∈ after, ¬ comes u v

/-- Which value is leftmost depends only on the order of the values in the list. -/
theorem Leftmost.congr {comes precedes : Value → Value → Prop} {values : List Value} {v : Value}
    (hsame : ∀ u ∈ values, ∀ w ∈ values, comes u w ↔ precedes u w)
    (h : Leftmost comes values v) : Leftmost precedes values v := by
  obtain ⟨before, after, rfl, hbefore, hafter⟩ := h
  refine ⟨before, after, rfl, fun u hu => ?_, fun u hu => ?_⟩
  · exact (hsame v (by simp) u (by simp [hu])).mp (hbefore u hu)
  · exact mt (hsame u (by simp [hu]) v (by simp)).mpr (hafter u hu)

section
variable {K : Type} [LinearOrder K] {x y z : K} {wanted : Ordering}

theorem compare_trans (hwanted : wanted ≠ .eq) (hxy : compare x y = wanted)
    (hyz : compare y z = wanted) : compare x z = wanted := by
  cases wanted with
  | lt => exact compare_lt_iff_lt.mpr ((compare_lt_iff_lt.mp hxy).trans (compare_lt_iff_lt.mp hyz))
  | eq => exact absurd rfl hwanted
  | gt => exact compare_gt_iff_gt.mpr ((compare_gt_iff_gt.mp hyz).trans (compare_gt_iff_gt.mp hxy))

/-- What comes before a value comes before the values that do not. -/
theorem compare_of_ne (hwanted : wanted ≠ .eq) (hxz : compare x z = wanted)
    (hyz : compare y z ≠ wanted) : compare x y = wanted := by
  cases wanted with
  | lt =>
    rw [ne_eq, compare_lt_iff_lt, not_lt] at hyz
    exact compare_lt_iff_lt.mpr ((compare_lt_iff_lt.mp hxz).trans_le hyz)
  | eq => exact absurd rfl hwanted
  | gt =>
    rw [ne_eq, compare_gt_iff_gt, not_lt] at hyz
    exact compare_gt_iff_gt.mpr (hyz.trans_lt (compare_gt_iff_gt.mp hxz))

end

/-- Of values that are compared by a key, the first extreme one is found. -/
theorem extreme_of_keyed {K : Type} [LinearOrder K] {key : Value → K} {symbol : String}
    {wanted : Ordering} (hwanted : wanted ≠ .eq) {best : Value} {rest : List Value}
    (h : ∀ u ∈ best :: rest, ∀ v ∈ best :: rest, KeyedBy key u v) :
    ∃ v, extreme symbol wanted best rest = .ok v ∧
      Leftmost (fun u v => compare (key u) (key v) = wanted) (best :: rest) v := by
  induction rest generalizing best with
  | nil => exact ⟨best, rfl, [], [], rfl, by simp, by simp⟩
  | cons v rest ih =>
    have horder : ordering? symbol v best = .ok (some (compare (key v) (key best))) :=
      (h v (by simp) best (by simp)).order symbol
    rw [extreme, horder]
    by_cases hbetter : compare (key v) (key best) = wanted
    · -- the value takes the place of the best one so far
      obtain ⟨found, hfound, before, after, hsplit, hbefore, hafter⟩ :=
        ih fun u hu w hw => h u (List.mem_cons_of_mem _ hu) w (List.mem_cons_of_mem _ hw)
      refine ⟨found, by simpa [hbetter] using hfound, best :: before, after, ?_, ?_, hafter⟩
      · rw [hsplit, List.cons_append]
      · refine List.forall_mem_cons.mpr ⟨?_, hbefore⟩
        cases before with
        | nil =>
          obtain ⟨rfl, -⟩ := List.cons.inj hsplit
          exact hbetter
        | cons first before =>
          obtain ⟨rfl, -⟩ := List.cons.inj hsplit
          exact compare_trans hwanted (hbefore v (by simp)) hbetter
    · -- the value is passed over
      have hkept : ∀ u ∈ best :: rest, u ∈ best :: v :: rest := by
        intro u hu
        rcases List.mem_cons.mp hu with rfl | hu
        · exact List.mem_cons_self
        · exact List.mem_cons_of_mem _ (List.mem_cons_of_mem _ hu)
      obtain ⟨found, hfound, before, after, hsplit, hbefore, hafter⟩ :=
        ih fun u hu w hw => h u (hkept u hu) w (hkept w hw)
      refine ⟨found, by simpa [hbetter] using hfound, ?_⟩
      cases before with
      | nil =>
        obtain ⟨rfl, rfl⟩ := List.cons.inj hsplit
        exact ⟨[], v :: rest, rfl, by simp, List.forall_mem_cons.mpr ⟨hbetter, hafter⟩⟩
      | cons first before =>
        obtain ⟨rfl, rfl⟩ := List.cons.inj hsplit
        obtain ⟨hfirst, hothers⟩ := List.forall_mem_cons.mp hbefore
        refine ⟨best :: v :: before, after, rfl, ?_, hafter⟩
        refine List.forall_mem_cons.mpr ⟨hfirst, List.forall_mem_cons.mpr ⟨?_, hothers⟩⟩
        exact compare_of_ne hwanted hfirst hbetter

/-- All values are of one class. -/
def OneClass (values : List Value) : Prop :=
  ∃ c, ∀ v ∈ values, Class.of? v = some c

/-- Among several values that are not of one class, two are compared that have no order. -/
theorem extreme_of_stray {symbol : String} {wanted : Ordering} {best : Value} {rest : List Value}
    (hrest : rest ≠ []) (h : ¬ OneClass (best :: rest)) :
    ∃ left ∈ best :: rest, ∃ right ∈ best :: rest, extreme symbol wanted best rest
      = .error (.type (.notOrdered symbol left.typeName right.typeName)) := by
  induction rest generalizing best with
  | nil => exact absurd rfl hrest
  | cons v rest ih =>
    by_cases hsame : SameClass v best
    · obtain ⟨o, ho⟩ := ordering?_of_sameClass hsame symbol
      obtain ⟨c, hv, hbest⟩ := hsame
      rw [extreme, ho]
      show ∃ left ∈ _, ∃ right ∈ _,
        extreme symbol wanted (if o == some wanted then v else best) rest = _
      generalize hnext : (if o == some wanted then v else best) = next
      have hmem : next = v ∨ next = best := by
        rw [← hnext]
        split
        · exact .inl rfl
        · exact .inr rfl
      have hclass : Class.of? next = some c := by
        rcases hmem with rfl | rfl
        · exact hv
        · exact hbest
      -- the class of the values so far is not that of the others
      have hstray : ¬ ∀ u ∈ rest, Class.of? u = some c := fun hothers =>
        h ⟨c, List.forall_mem_cons.mpr ⟨hbest, List.forall_mem_cons.mpr ⟨hv, hothers⟩⟩⟩
      have hrest : rest ≠ [] := by
        rintro rfl
        exact hstray (by simp)
      have hnone : ¬ OneClass (next :: rest) := by
        rintro ⟨other, hother⟩
        obtain ⟨hfirst, hothers⟩ := List.forall_mem_cons.mp hother
        obtain rfl : c = other := Option.some.inj (hclass.symm.trans hfirst)
        exact hstray hothers
      have hkept : ∀ u ∈ next :: rest, u ∈ best :: v :: rest := by
        intro u hu
        rcases List.mem_cons.mp hu with rfl | hu
        · rcases hmem with rfl | rfl <;> simp
        · exact List.mem_cons_of_mem _ (List.mem_cons_of_mem _ hu)
      obtain ⟨left, hleft, right, hright, herror⟩ := ih hrest hnone
      exact ⟨left, hkept left hleft, right, hkept right hright, herror⟩
    · refine ⟨v, by simp, best, by simp, ?_⟩
      rw [extreme, ordering?_of_apart hsame]

/-! ## Coherence -/

/-- Values without floats are equal if they are the same apart from how they are written. -/
theorem equal_iff_plain {a b : Value} (ha : FloatFree a) (hb : FloatFree b) :
    compareValues .eq a b = .ok true ↔ plain a = plain b := by
  rw [← sameValue_iff_plain ha hb]
  exact ⟨Except.ok.inj, congrArg Except.ok⟩

theorem sameClass_of_ordered {a b : Value} {op : CompareOp} {holds : Bool}
    (hop : op.isOrder = true) (h : compareValues op a b = .ok holds) : SameClass a b := by
  by_contra hapart
  rw [compareValues_of_apart hapart hop] at h
  cases h

/-- A function picks the first extreme argument, or finds two arguments without an order. -/
theorem callBuiltin_picks {f : Builtin} {op : CompareOp} (hf : f.picksBy? = some op)
    (first : Value) (rest : List Value) : ∃ wanted, wanted ≠ .eq ∧
      (∀ o, op.holds o = true ↔ o = wanted) ∧
      callBuiltin f (first :: rest) = extreme op.symbol wanted first rest := by
  cases f <;> cases hf
  · exact ⟨.lt, by simp, by simp [CompareOp.holds], rfl⟩
  · exact ⟨.gt, by simp, by simp [CompareOp.holds], rfl⟩

/-- Of arguments that are of one class, the first extreme one is picked. -/
theorem callBuiltin_of_oneClass {f : Builtin} {op : CompareOp} (hf : f.picksBy? = some op)
    {first : Value} {rest : List Value} (hclass : OneClass (first :: rest))
    (hfree : ∀ v ∈ first :: rest, FloatFree v) :
    ∃ v, callBuiltin f (first :: rest) = .ok v ∧
      Leftmost (fun u v => compareValues op u v = .ok true) (first :: rest) v := by
  obtain ⟨wanted, hwanted, hholds, hcall⟩ := callBuiltin_picks hf first rest
  obtain ⟨c, hclass⟩ := hclass
  obtain ⟨K, _, key, hkey⟩ := c.exists_key
  have hkeyed : ∀ u ∈ first :: rest, ∀ v ∈ first :: rest, KeyedBy key u v := fun u hu v hv =>
    hkey u v (hfree u hu) (hfree v hv) (hclass u hu) (hclass v hv)
  obtain ⟨v, hv, hleftmost⟩ := extreme_of_keyed hwanted hkeyed
  refine ⟨v, hcall.trans hv, hleftmost.congr fun u hu w hw => ?_⟩
  rw [(hkeyed u hu w hw).compareValues, Except.ok.injEq, hholds]

/-- A list with a value of another class has no extreme: the error names a pair of its values. -/
theorem callBuiltin_of_stray {f : Builtin} {op : CompareOp} (hf : f.picksBy? = some op)
    {first second : Value} {rest : List Value} (hstray : ¬ OneClass (first :: second :: rest)) :
    ∃ left ∈ first :: second :: rest, ∃ right ∈ first :: second :: rest,
      callBuiltin f (first :: second :: rest)
        = .error (.type (.notOrdered op.symbol left.typeName right.typeName)) := by
  obtain ⟨wanted, -, -, hcall⟩ := callBuiltin_picks hf first (second :: rest)
  rw [hcall]
  exact extreme_of_stray (by simp) hstray

theorem less_trans {a b c : Value} (ha : FloatFree a) (hb : FloatFree b) (hc : FloatFree c)
    (hab : compareValues .lt a b = .ok true) (hbc : compareValues .lt b c = .ok true) :
    compareValues .lt a c = .ok true := by
  obtain ⟨d, hclassA, hclassB⟩ := sameClass_of_ordered rfl hab
  obtain ⟨e, hclass, hclassC⟩ := sameClass_of_ordered rfl hbc
  obtain rfl : d = e := Option.some.inj (hclassB.symm.trans hclass)
  obtain ⟨K, _, key, hkey⟩ := d.exists_key
  rw [(hkey a b ha hb hclassA hclassB).compareValues] at hab
  rw [(hkey b c hb hc hclassB hclassC).compareValues] at hbc
  rw [(hkey a c ha hc hclassA hclassC).compareValues]
  simp only [CompareOp.holds, Except.ok.injEq, beq_iff_eq, compare_lt_iff_lt] at hab hbc ⊢
  exact hab.trans hbc

/-- Equality is an equivalence. Two values of one class are in one of three orders, by which all
operators go, and "less" is transitive; values that are not of one class are not ordered at all.
So `min` and `max` have the first of the extreme arguments for a value if the arguments are of one
class, and fail if they are not. -/
theorem comparison_coherent :
    (Equivalence fun a b : {v // FloatFree v} => compareValues .eq a b = .ok true) ∧
    (∀ a b, FloatFree a → FloatFree b → SameClass a b →
      ∃ o : Ordering, ∀ op, compareValues op a b = .ok (op.holds o)) ∧
    (∀ a b c, FloatFree a → FloatFree b → FloatFree c → compareValues .lt a b = .ok true →
      compareValues .lt b c = .ok true → compareValues .lt a c = .ok true) ∧
    (∀ a b, ¬ SameClass a b → ∀ op : CompareOp, op.isOrder = true →
      compareValues op a b = .error (.type (.notOrdered op.symbol a.typeName b.typeName))) ∧
    (∀ (f : Builtin) (op : CompareOp) (first second : Value) (rest : List Value),
      f.picksBy? = some op →
      let args := first :: second :: rest
      (OneClass args → (∀ v ∈ args, FloatFree v) → ∃ v, callBuiltin f args = .ok v ∧
        Leftmost (fun u v => compareValues op u v = .ok true) args v) ∧
      (¬ OneClass args → ∃ left ∈ args, ∃ right ∈ args, callBuiltin f args
        = .error (.type (.notOrdered op.symbol left.typeName right.typeName)))) := by
  refine ⟨⟨?_, ?_, ?_⟩, ?_, fun a b c => less_trans, fun a b h op => compareValues_of_apart h, ?_⟩
  · rintro ⟨a, ha⟩
    exact (equal_iff_plain ha ha).mpr rfl
  · rintro ⟨a, ha⟩ ⟨b, hb⟩ h
    exact (equal_iff_plain hb ha).mpr ((equal_iff_plain ha hb).mp h).symm
  · rintro ⟨a, ha⟩ ⟨b, hb⟩ ⟨c, hc⟩ h hnext
    exact (equal_iff_plain ha hc).mpr
      (((equal_iff_plain ha hb).mp h).trans ((equal_iff_plain hb hc).mp hnext))
  · rintro a b ha hb ⟨c, hclass, hother⟩
    obtain ⟨K, _, key, hkey⟩ := c.exists_key
    exact ⟨_, (hkey a b ha hb hclass hother).compareValues⟩
  · intro f op first second rest hf args
    exact ⟨callBuiltin_of_oneClass hf, callBuiltin_of_stray hf⟩

/-- A flag that is up is as great as the number one, and comes first; an offset does not matter;
null is of no class. -/
theorem comparison_coherent_flag :
    let args : List Value := [.int 0, .bool true, .int 1]
    let mixed : List Value := [.int 1, .null]
    Leftmost (fun u v => compareValues .gt u v = .ok true) args (.bool true) ∧
    compareValues .lt (.bool false) (.int 2) = .ok true ∧
    (∃ o : Ordering, ∀ op, compareValues op (.zoned ⟨60, 0⟩ 3600) (.naive ⟨60, 0⟩)
      = .ok (op.holds o)) ∧
    compareValues .ge .null .null = .error (.type (.notOrdered ">=" "none" "none")) ∧
    ∃ left ∈ mixed, ∃ right ∈ mixed, callBuiltin .min mixed
      = .error (.type (.notOrdered "<" left.typeName right.typeName)) := by
  intro args mixed
  obtain ⟨-, horder, htrans, hapart, hpicks⟩ := comparison_coherent
  have hclass : OneClass args := ⟨.number, by simp [args, Class.of?]⟩
  have hfree : ∀ v ∈ args, FloatFree v := by
    simp only [args, List.forall_mem_cons]
    exact ⟨.int 0, .bool true, .int 1, by simp⟩
  obtain ⟨v, hv, hleftmost⟩ := (hpicks .max .gt _ _ _ rfl).1 hclass hfree
  obtain rfl : Value.bool true = v := Except.ok.inj hv
  have hnull : ¬ SameClass .null .null := by
    rintro ⟨c, hc, -⟩
    cases hc
  have hstray : ¬ OneClass mixed := by
    rintro ⟨c, hc⟩
    cases hc .null (by simp [mixed])
  refine ⟨hleftmost, ?_, ?_, hapart .null .null hnull .ge rfl, ?_⟩
  · exact htrans _ (.int 1) _ (.bool false) (.int 1) (.int 2) rfl rfl
  · exact horder _ _ (.zoned _ _) (.naive _) ⟨.time, rfl, rfl⟩
  · exact (hpicks .min .lt _ _ _ rfl).2 hstray

end Expr

end RowSignals
