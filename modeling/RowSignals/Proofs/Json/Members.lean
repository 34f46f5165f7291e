import RowSignals.Json.Basic

/-!
# Members of objects

What is found under the keys of an object.

* `Json.Members.Absent`: a key without a value; `present?_eq_none_iff`, `present?_eq_some_iff`.
* `Json.Members.itemsAt`: the items of a list under a key.
* `Json.Members.get?_insert`: what is found after one more member was put in its place.
-/

namespace RowSignals

namespace Json

/-- The key has no value: it is missing, or null. -/
def Members.Absent (members : Members) (key : String) : Prop :=
  members.get? key = none ∨ members.get? key = some .null

/-- Nothing is present under a key that is missing or null. -/
theorem Members.present?_eq_none_iff {members : Members} {key : String} :
    members.present? key = none ↔ members.Absent key := by
  unfold present? Absent
  cases members.get? key with
  | none => simp
  | some value => cases value <;> simp

/-- What is present under a key is found there and is not null. -/
theorem Members.present?_eq_some_iff {members : Members} {key : String} {value : Json} :
    members.present? key = some value ↔ members.get? key = some value ∧ value ≠ .null := by
  unfold present?
  cases members.get? key with
  | none => simp
  | some found =>
    cases found with
    | null =>
      constructor
      · intro h
        cases h
      · rintro ⟨⟨rfl⟩, hne⟩
        exact absurd rfl hne
    | _ =>
      constructor
      · rintro ⟨rfl⟩
        exact ⟨rfl, by simp⟩
      · exact fun h => h.1

/-- The items of a list under a key; none if there is no list. -/
def Members.itemsAt (members : Members) (key : String) : List Json :=
  ((members.get? key).bind Json.items?).getD []

theorem Members.itemsAt_of_get? {members : Members} {key : String} {items : List Json}
    (h : members.get? key = some (.array items)) : members.itemsAt key = items := by
  rw [itemsAt, h]
  rfl

theorem Members.itemsAt_of_absent {members : Members} {key : String}
    (h : members.Absent key) : members.itemsAt key = [] := by
  rcases h with hnone | hnull
  · rw [itemsAt, hnone]
    rfl
  · rw [itemsAt, hnull]
    rfl

/-! ## One more member -/

/-- Of several members with a key the first one counts. -/
theorem Members.get?_cons (known : String) (value : Json) (members : Members) (key : String) :
    Members.get? ((known, value) :: members) key
      = if key = known then some value else members.get? key := by
  unfold get?
  rw [List.lookup_cons]
  by_cases h : key = known
  · simp [h]
  · have hbeq : (key == known) = false := beq_eq_false_iff_ne.mpr h
    rw [hbeq, if_neg h]

/-- The new member is found under its key, and the members of other keys stay as they were. -/
theorem Members.get?_insert (key : String) (value : Json) (members : Members) (other : String) :
    (Members.insert key value members).get? other
      = if other = key then some value else members.get? other := by
  induction members with
  | nil => rw [insert, get?_cons]
  | cons member members ih =>
    obtain ⟨known, before⟩ := member
    unfold insert
    split
    · rw [get?_cons]
    · split
      · rename_i hsame
        rw [get?_cons, get?_cons]
        by_cases h : other = key
        · rw [if_pos h, if_pos h]
        · rw [if_neg h, if_neg h, if_neg (hsame ▸ h)]
      · rename_i hne
        rw [get?_cons, get?_cons, ih]
        by_cases h : other = known
        · have hother : other ≠ key := fun heq => hne (heq.symm.trans h)
          rw [if_pos h, if_neg hother, if_pos h]
        · rw [if_neg h, if_neg h]

end Json

end RowSignals
