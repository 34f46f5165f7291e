import Mathlib
import RowSignals.Proofs.Json.Members

/-!
# Objects without nulls

A key whose value is null is dropped, and the values of other keys stay as they are. Whoever asks
for a value that is there and not null finds the same before and after.

* `Json.Members.withoutNulls`: the members that are not null; `present?_withoutNulls`.
* `Json.Members.updateAt`: the value of a key replaced; `present?_updateAt`.
* `Json.withoutNulls`, `Json.mapItems`, `Json.mapMembers`: changes to values.
-/

namespace RowSignals

namespace Json

namespace Members

/-- The members whose keys have a value that is not null. -/
def withoutNulls (members : Members) : Members :=
  members.filter fun member => (members.present? member.1).isSome

/-- The members with another value under a key. -/
def updateAt (key : String) (f : Json → Json) (members : Members) : Members :=
  members.map fun member => (member.1, if member.1 = key then f member.2 else member.2)

/-! ## What is found -/

/-- Members that are kept by their keys are found as before. -/
theorem get?_filter (keep : String → Bool) (members : Members) (key : String) :
    get? (members.filter fun member => keep member.1) key
      = if keep key then members.get? key else none := by
  induction members with
  | nil =>
    rw [List.filter_nil]
    split <;> rfl
  | cons member members ih =>
    obtain ⟨known, value⟩ := member
    rw [get?_cons]
    by_cases hknown : keep known = true
    · rw [List.filter_cons, if_pos hknown, get?_cons, ih]
      by_cases hkey : key = known
      · rw [if_pos hkey, if_pos hkey, hkey, if_pos hknown]
      · rw [if_neg hkey, if_neg hkey]
    · rw [List.filter_cons, if_neg hknown, ih]
      by_cases hkey : key = known
      · rw [hkey, if_neg hknown, if_neg hknown]
      · rw [if_neg hkey]

/-- What is present is what is found, unless it is null. -/
theorem present?_eq_filter (members : Members) (key : String) :
    members.present? key = (members.get? key).filter fun value => !value.isNull := by
  unfold present?
  cases members.get? key with
  | none => rfl
  | some value => cases value <;> rfl

/-- Members that are kept by their keys are present as before. -/
theorem present?_filter (keep : String → Bool) (members : Members) (key : String) :
    present? (members.filter fun member => keep member.1) key
      = if keep key then members.present? key else none := by
  rw [present?_eq_filter, present?_eq_filter, get?_filter]
  by_cases h : keep key = true
  · rw [if_pos h, if_pos h]
  · rw [if_neg h, if_neg h, Option.filter_none]

@[simp]
theorem present?_withoutNulls (members : Members) (key : String) :
    members.withoutNulls.present? key = members.present? key := by
  rw [withoutNulls, present?_filter fun key => (members.present? key).isSome]
  cases members.present? key with
  | none => rfl
  | some value => rfl

/-- What is found without nulls is what is there and not null. -/
theorem get?_withoutNulls (members : Members) (key : String) :
    members.withoutNulls.get? key = members.present? key := by
  rw [withoutNulls, get?_filter fun key => (members.present? key).isSome]
  cases hpresent : members.present? key with
  | none => rfl
  | some value => exact (present?_eq_some_iff.mp hpresent).1

/-- Dropping nulls and keeping some keys can be exchanged. -/
theorem filter_withoutNulls (keep : String → Bool) (members : Members) :
    members.withoutNulls.filter (fun member => keep member.1)
      = withoutNulls (members.filter fun member => keep member.1) := by
  unfold withoutNulls
  rw [List.filter_filter, List.filter_filter]
  refine List.filter_congr fun member _ => ?_
  rw [present?_filter]
  cases keep member.1 with
  | true => rw [Bool.true_and, if_pos rfl, Bool.and_true]
  | false => rw [Bool.false_and, Bool.and_false]

theorem filter_updateAt (keep : String → Bool) (key : String) (f : Json → Json)
    (members : Members) :
    (members.updateAt key f).filter (fun member => keep member.1)
      = updateAt key f (members.filter fun member => keep member.1) := by
  unfold updateAt
  rw [List.filter_map]
  rfl

theorem get?_updateAt (key : String) (f : Json → Json) (members : Members) (other : String) :
    (members.updateAt key f).get? other
      = (members.get? other).map fun value => if other = key then f value else value := by
  induction members with
  | nil => rfl
  | cons member members ih =>
    rw [updateAt, List.map_cons, ← updateAt, get?_cons, get?_cons, ih]
    by_cases hother : other = member.1
    · rw [if_pos hother, if_pos hother, hother]
      rfl
    · rw [if_neg hother, if_neg hother]

theorem present?_updateAt_of_ne {key other : String} (h : other ≠ key) (f : Json → Json)
    (members : Members) : (members.updateAt key f).present? other = members.present? other := by
  simp only [present?, get?_updateAt, if_neg h, Option.map_id']

/-- A change that keeps nulls, and makes none, is made to the value that is found. -/
theorem present?_updateAt {f : Json → Json} (h : ∀ value, (f value).isNull = value.isNull)
    (key : String) (members : Members) :
    (members.updateAt key f).present? key = (members.present? key).map f := by
  rw [present?_eq_filter, present?_eq_filter, get?_updateAt]
  cases members.get? key with
  | none => rfl
  | some value =>
    rw [Option.map_some, if_pos rfl, Option.filter_some, Option.filter_some, h]
    split
    · rfl
    · rfl

end Members

/-! ## Values -/

/-- An object without its null members; other values stay as they are. -/
def withoutNulls : Json → Json
  | .object members => .object (Members.withoutNulls members)
  | value => value

/-- A list with every item changed; other values stay as they are. -/
def mapItems (f : Json → Json) : Json → Json
  | .array items => .array (items.map f)
  | value => value

/-- An object with every value changed; other values stay as they are. -/
def mapMembers (f : Json → Json) : Json → Json
  | .object members => .object (members.map fun member => (member.1, f member.2))
  | value => value

theorem isNull_mapItems (f : Json → Json) (value : Json) :
    (value.mapItems f).isNull = value.isNull := by
  cases value <;> rfl

theorem isNull_mapMembers (f : Json → Json) (value : Json) :
    (value.mapMembers f).isNull = value.isNull := by
  cases value <;> rfl

end Json

end RowSignals
