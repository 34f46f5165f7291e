/-!
# Results that may be errors

When a computation in several steps has a result or an error, and what its steps have then.

* `bind_eq_ok`, `bind_eq_error`, `error_of_bind`, `map_eq_ok`, `map_eq_error`: two steps.
* `bind_eq_map_bind`, `map_bind_eq_map_bind`, `map_bind_congr`: results of two steps that were
  changed.
* `exists_of_toOption_map`: a result of which something was computed.
* `exists_of_mem_mapM`, `exists_of_mapM_error`: one step for each item of a list.
-/

namespace RowSignals

/-- A result in two parts comes from results of both. -/
theorem bind_eq_ok {α β ε : Type} {x : Except ε α} {f : α → Except ε β} {b : β} :
    x >>= f = .ok b ↔ ∃ a, x = .ok a ∧ f a = .ok b := by
  cases x with
  | error error => exact ⟨nofun, nofun⟩
  | ok a =>
    constructor
    · exact fun h => ⟨a, rfl, h⟩
    · rintro ⟨_, ⟨rfl⟩, h⟩
      exact h

/-- An error in two parts is that of the first or of the second. -/
theorem bind_eq_error {α β ε : Type} {x : Except ε α} {f : α → Except ε β} {error : ε} :
    x >>= f = .error error ↔ x = .error error ∨ ∃ a, x = .ok a ∧ f a = .error error := by
  cases x with
  | error first =>
    constructor
    · rintro ⟨rfl⟩
      exact .inl rfl
    · intro h
      rcases h with h | ⟨a, h, -⟩
      · cases h
        rfl
      · cases h
  | ok a =>
    constructor
    · exact fun h => .inr ⟨a, rfl, h⟩
    · intro h
      rcases h with h | ⟨_, ha, h⟩
      · cases h
      · cases ha
        exact h

/-- An error in two parts, of which the second always has a result, is that of the first. -/
theorem error_of_bind {α β ε : Type} {x : Except ε α} {f : α → Except ε β} {error : ε}
    (hok : ∀ a, ∃ b, f a = .ok b) (h : x >>= f = .error error) : x = .error error := by
  refine (bind_eq_error.mp h).resolve_right ?_
  rintro ⟨a, -, hlater⟩
  obtain ⟨b, hb⟩ := hok a
  cases hlater.symm.trans hb

/-- A result that was changed comes from one before the change. -/
theorem map_eq_ok {α β ε : Type} {x : Except ε α} {f : α → β} {b : β} :
    x.map f = .ok b ↔ ∃ a, x = .ok a ∧ f a = b := by
  cases x with
  | error error => exact ⟨nofun, nofun⟩
  | ok a =>
    constructor
    · rintro ⟨rfl⟩
      exact ⟨a, rfl, rfl⟩
    · rintro ⟨_, ⟨rfl⟩, rfl⟩
      rfl

theorem map_eq_error {α β ε : Type} {x : Except ε α} {f : α → β} {error : ε} :
    x.map f = .error error ↔ x = .error error := by
  cases x with
  | error first =>
    constructor
    · rintro ⟨rfl⟩
      rfl
    · rintro ⟨rfl⟩
      rfl
  | ok a => exact ⟨nofun, nofun⟩

/-- A result in two parts is changed where the second part has a changed result. -/
theorem bind_eq_map_bind {α β γ ε : Type} {x : Except ε α} {f : α → Except ε β}
    {g : α → Except ε γ} {change : β → γ} (h : ∀ a, x = .ok a → g a = (f a).map change) :
    x >>= g = (x >>= f).map change := by
  cases x with
  | error error => rfl
  | ok a => exact h a rfl

/-- The same where the first part has a changed result, too. -/
theorem map_bind_eq_map_bind {α β γ δ ε : Type} {x : Except ε α} {first : α → δ}
    {f : α → Except ε β} {g : δ → Except ε γ} {change : β → γ}
    (h : ∀ a, x = .ok a → g (first a) = (f a).map change) :
    x.map first >>= g = (x >>= f).map change := by
  cases x with
  | error error => rfl
  | ok a => exact h a rfl

/-- Two computations agree in a part of their results where their second steps do. -/
theorem map_bind_congr {α β γ ε : Type} {x : Except ε α} {first : α → α} {f g : α → Except ε β}
    {part : β → γ} (h : ∀ a, x = .ok a → (g (first a)).map part = (f a).map part) :
    (x.map first >>= g).map part = (x >>= f).map part := by
  cases x with
  | error error => rfl
  | ok a => exact h a rfl

/-- What is known of a result holds of one that is there. -/
theorem exists_of_toOption_map {α β ε : Type} {x : Except ε α} {f : α → β} {b : β}
    (h : x.toOption.map f = some b) : ∃ a, x = .ok a ∧ f a = b := by
  cases x with
  | error error => cases h
  | ok a => exact ⟨a, rfl, Option.some.inj h⟩

section
variable {α β ε : Type} {f : α → Except ε β} {items : List α}

/-- Every one of several results comes from an item. -/
theorem exists_of_mem_mapM {results : List β} (h : items.mapM f = .ok results) {b : β}
    (hb : b ∈ results) : ∃ item ∈ items, f item = .ok b := by
  induction items generalizing results with
  | nil =>
    cases h
    cases hb
  | cons item items ih =>
    rw [List.mapM_cons] at h
    obtain ⟨first, hfirst, h⟩ := bind_eq_ok.mp h
    obtain ⟨others, hothers, h⟩ := bind_eq_ok.mp h
    cases h
    rcases List.mem_cons.mp hb with rfl | hb
    · exact ⟨item, List.mem_cons_self, hfirst⟩
    · obtain ⟨item, hitem, hok⟩ := ih hothers hb
      exact ⟨item, List.mem_cons_of_mem _ hitem, hok⟩

/-- An error of several results is that of an item. -/
theorem exists_of_mapM_error {error : ε} (h : items.mapM f = .error error) :
    ∃ item ∈ items, f item = .error error := by
  induction items with
  | nil => cases h
  | cons item items ih =>
    rw [List.mapM_cons] at h
    rcases bind_eq_error.mp h with hfirst | ⟨first, -, h⟩
    · exact ⟨item, List.mem_cons_self, hfirst⟩
    · rcases bind_eq_error.mp h with hothers | ⟨others, -, h⟩
      · obtain ⟨item, hitem, herror⟩ := ih hothers
        exact ⟨item, List.mem_cons_of_mem _ hitem, herror⟩
      · cases h

end

end RowSignals
