import RowSignals.Json.Basic

/-!
# The same values

Two JSON values are the same or not, whichever of them comes first, and objects that are the same
have the same members.

* `Json.same_comm`: the order of the two values does not matter.
* `Json.Members.get?_of_sameMembers`: the members of the same objects.
-/

namespace RowSignals

open Float.Model (UnpackedFloat)

/-! ## Numbers -/

/-- Whether an exponent and a mantissa are the same does not depend on which is compared. -/
theorem Number.then_eq_comm (e f : Int) (m n : Nat) :
    (compare e f).then (compare m n) = .eq ↔ (compare f e).then (compare n m) = .eq := by
  rw [Ordering.then_eq_eq, Ordering.then_eq_eq]
  exact and_congr Std.OrientedCmp.eq_comm Std.OrientedCmp.eq_comm

/-- Whether two floats are the same does not depend on their order. -/
theorem Number.unpacked_beq_comm (a b : UnpackedFloat) : a.beq b = b.beq a := by
  have hpositive (e f : Int) (m n : Nat) :
      (some ((compare e f).then (compare m n)) == some .eq)
        = (some ((compare f e).then (compare n m)) == some .eq) := by
    rw [Bool.eq_iff_iff, beq_iff_eq, beq_iff_eq, Option.some_inj, Option.some_inj]
    exact then_eq_comm e f m n
  have hnegative (e f : Int) (m n : Nat) :
      (some ((compare e f).then (compare m n)).swap == some .eq)
        = (some ((compare f e).then (compare n m)).swap == some .eq) := by
    rw [Bool.eq_iff_iff, beq_iff_eq, beq_iff_eq, Option.some_inj, Option.some_inj,
      Ordering.swap_eq_eq, Ordering.swap_eq_eq]
    exact then_eq_comm e f m n
  -- infinities, no numbers and zeros are told apart by kind and sign, the rest by the value too
  rcases a with sa | - | sa | ⟨sa, m, e, hm⟩
  · rcases b with sb | - | sb | ⟨sb, n, f, hn⟩
    · cases sa <;> cases sb <;> rfl
    · cases sa <;> rfl
    · cases sa <;> rfl
    · cases sa <;> cases sb <;> rfl
  · cases b <;> rfl
  · rcases b with sb | - | sb | ⟨sb, n, f, hn⟩
    · cases sb <;> rfl
    · rfl
    · rfl
    · cases sb <;> rfl
  · rcases b with sb | - | sb | ⟨sb, n, f, hn⟩
    · cases sa <;> cases sb <;> rfl
    · cases sa <;> rfl
    · cases sa <;> rfl
    · cases sa with
      | positive =>
        cases sb with
        | positive => exact hpositive e f m n
        | negative => rfl
      | negative =>
        cases sb with
        | positive => rfl
        | negative => exact hnegative e f m n

theorem Json.Number.same_comm (a b : Json.Number) : a.same b = b.same a := by
  cases a with
  | int i =>
    cases b with
    | int j => exact Bool.beq_comm
    | float y => rfl
  | float x =>
    cases b with
    | int j => rfl
    | float y => exact RowSignals.Number.unpacked_beq_comm x.toModel.unpack y.toModel.unpack

/-! ## Values -/

namespace Json

mutual

/-- To be the same JSON is symmetric. By induction on the first value, together with the two
lemmas below. -/
theorem same_comm (a b : Json) : a.same b = b.same a := by
  cases a with
  | null => cases b <;> rfl
  | bool x =>
    cases b with
    | bool y => exact Bool.beq_comm
    | _ => rfl
  | number x =>
    cases b with
    | number y => exact x.same_comm y
    | _ => rfl
  | string x =>
    cases b with
    | string y => exact Bool.beq_comm
    | _ => rfl
  | array as =>
    cases b with
    | array bs => simpa only [same] using sameItems_comm as bs
    | _ => rfl
  | object as =>
    cases b with
    | object bs => simpa only [same] using sameMembers_comm as bs
    | _ => rfl

theorem sameItems_comm (as bs : List Json) : sameItems as bs = sameItems bs as := by
  cases as with
  | nil => cases bs <;> rfl
  | cons a as =>
    cases bs with
    | nil => rfl
    | cons b bs => simp only [sameItems, same_comm a b, sameItems_comm as bs]

theorem sameMembers_comm (as bs : List (String × Json)) :
    sameMembers as bs = sameMembers bs as := by
  cases as with
  | nil => cases bs <;> rfl
  | cons a as =>
    cases bs with
    | nil => rfl
    | cons b bs =>
      obtain ⟨k, a⟩ := a
      obtain ⟨l, b⟩ := b
      have hkey : (k == l) = (l == k) := Bool.beq_comm
      simp only [sameMembers, hkey, same_comm a b, sameMembers_comm as bs]

end

/-- Members that are the same have the same under every key. -/
theorem Members.get?_of_sameMembers {as bs : Members} (h : sameMembers as bs) (key : String) :
    Option.Rel (fun a b => a.same b) (as.get? key) (bs.get? key) := by
  induction as generalizing bs with
  | nil =>
    cases bs with
    | nil => exact .none
    | cons b bs => cases h
  | cons a as ih =>
    cases bs with
    | nil => cases h
    | cons b bs =>
      obtain ⟨k, a⟩ := a
      obtain ⟨l, b⟩ := b
      simp only [sameMembers, Bool.and_eq_true, beq_iff_eq] at h
      obtain ⟨⟨rfl, hsame⟩, hrest⟩ := h
      unfold get? at ih ⊢
      rw [List.lookup_cons, List.lookup_cons]
      cases key == k with
      | true => exact .some hsame
      | false => exact ih hrest

end Json

end RowSignals
