import Mathlib.Tactic.IntervalCases
import Mathlib.Tactic.Positivity
import RowSignals.Number.Layout
import RowSignals.Proofs.Number.Numeral

/-!
# Reports of floats are numerals

A report lays a decimal out around its point or with an exponent. Either way it is a numeral,
so that it can be read back.

* `Numeral.positional`, `Numeral.scientific`: the two layouts of a decimal.
* `shortest_proper`: the shortest decimal of a positive float has digits, all of them below
  ten.
* `report_eq_text`: the report of a float is the text of `Numeral.report`.
-/

namespace RowSignals.Number

/-! ## The layouts of a decimal -/

/-- A decimal whose digits are digits, at least one of them. -/
structure Decimal.Proper (d : Decimal) : Prop where
  digits_ne_nil : d.digits ≠ []
  digits_lt : ∀ k ∈ d.digits, k < 10

theorem isDigit_digitChar {k : Nat} (h : k < 10) : (digitChar k).isDigit = true := by
  interval_cases k <;> rfl

/-- The digits of a decimal as characters. -/
def Decimal.chars (d : Decimal) : List Char :=
  d.digits.map digitChar

theorem Decimal.Proper.chars_ne_nil {d : Decimal} (h : d.Proper) : d.chars ≠ [] :=
  fun heq => h.digits_ne_nil (List.map_eq_nil_iff.mp heq)

theorem Decimal.Proper.chars_allDigits {d : Decimal} (h : d.Proper) : AllDigits d.chars := by
  intro c hc
  obtain ⟨k, hk, rfl⟩ := List.mem_map.mp hc
  exact isDigit_digitChar (h.digits_lt k hk)

theorem allDigits_zeros (count : Nat) : AllDigits (List.replicate count '0') := by
  intro c hc
  rw [List.eq_of_mem_replicate hc]
  rfl

/-- A decimal with all its digits around the point. -/
def Numeral.positional (d : Decimal) (h : d.Proper) : Numeral :=
  if hlow : d.point ≤ 0 then
    { whole := ['0']
      places := some (List.replicate (-d.point).toNat '0' ++ d.chars)
      exponent := none
      whole_ne_nil := by simp
      whole_digits := allDigits_zeros 1
      places_digits := by
        rintro ps ⟨rfl⟩
        exact (allDigits_zeros _).append h.chars_allDigits
      exponent_ne_nil := by simp
      exponent_digits := by simp }
  else if hhigh : (d.chars.length : Int) ≤ d.point then
    { whole := d.chars ++ List.replicate (d.point - d.chars.length).toNat '0'
      places := some ['0']
      exponent := none
      whole_ne_nil := by simp [h.chars_ne_nil]
      whole_digits := h.chars_allDigits.append (allDigits_zeros _)
      places_digits := by
        rintro ps ⟨rfl⟩
        exact allDigits_zeros 1
      exponent_ne_nil := by simp
      exponent_digits := by simp }
  else
    { whole := d.chars.take d.point.toNat
      places := some (d.chars.drop d.point.toNat)
      exponent := none
      whole_ne_nil := by
        rw [← List.length_pos_iff, List.length_take]
        omega
      whole_digits := fun c hc => h.chars_allDigits c (List.mem_of_mem_take hc)
      places_digits := by
        rintro ps ⟨rfl⟩ c hc
        exact h.chars_allDigits c (List.mem_of_mem_drop hc)
      exponent_ne_nil := by simp
      exponent_digits := by simp }

/-- A decimal with one digit before the point and an exponent. -/
def Numeral.scientific (d : Decimal) (h : d.Proper) : Numeral :=
  { whole := d.chars.take 1
    places := if d.chars.length = 1 then none else some (d.chars.drop 1)
    exponent := some (decide (d.point - 1 < 0), Nat.toDigits 10 (d.point - 1).natAbs)
    whole_ne_nil := by
      have hpos := List.length_pos_iff.mpr h.chars_ne_nil
      rw [← List.length_pos_iff, List.length_take]
      omega
    whole_digits := fun c hc => h.chars_allDigits c (List.mem_of_mem_take hc)
    places_digits := by
      intro ps hps
      split at hps
      · cases hps
      · cases hps
        exact fun c hc => h.chars_allDigits c (List.mem_of_mem_drop hc)
    exponent_ne_nil := by
      rintro e ⟨rfl⟩
      exact Nat.toDigits_ne_nil
    exponent_digits := by
      rintro e ⟨rfl⟩
      exact allDigits_toDigits _ }

/-- The text of a decimal around the point is that of its numeral: zeros in front, the point
between the digits, or zeros and a point behind. -/
theorem positionalText_eq (d : Decimal) (h : d.Proper) :
    (positionalText true d).toList = (Numeral.positional d h).text := by
  have hlength : (d.digits.length : Int) = d.chars.length := by
    rw [Decimal.chars, List.length_map]
  unfold positionalText Numeral.positional
  simp only [List.length_map, hlength]
  split
  · simp [Numeral.text, Numeral.placesText, Numeral.exponentText, Decimal.chars]
  · split
    · simp [Numeral.text, Numeral.placesText, Numeral.exponentText, Decimal.chars]
    · simp [Numeral.text, Numeral.placesText, Numeral.exponentText, Decimal.chars]

/-- An integer as characters: a minus sign if it is negative, then the digits of its size. -/
theorem toList_toString_int (i : Int) : (toString i).toList
    = if i < 0 then '-' :: Nat.toDigits 10 i.natAbs else Nat.toDigits 10 i.natAbs := by
  rw [Int.toString_eq_repr, Int.repr_eq_if]
  by_cases hi : 0 ≤ i
  · have habs : i.toNat = i.natAbs := by omega
    rw [if_pos hi, if_neg (by omega), Nat.toList_repr, habs]
  · have habs : (-i).toNat = i.natAbs := by omega
    rw [if_neg hi, if_pos (by omega), String.toList_append, Nat.toList_repr, habs]
    rfl

/-- The text of a decimal with an exponent is that of its numeral. -/
theorem exponentText_eq (d : Decimal) (h : d.Proper) :
    (exponentText d).toList = (Numeral.scientific d h).text := by
  obtain ⟨k, ks, hdigits⟩ := List.exists_cons_of_ne_nil h.digits_ne_nil
  have hchars : d.chars = digitChar k :: ks.map digitChar := by
    rw [Decimal.chars, hdigits, List.map_cons]
  have hexp : (Numeral.scientific d h).exponentText = 'e' :: (toString (d.point - 1)).toList := by
    rw [toList_toString_int]
    by_cases hneg : d.point - 1 < 0
    · simp [Numeral.exponentText, Numeral.scientific, hneg]
    · simp [Numeral.exponentText, Numeral.scientific, hneg]
  rw [Numeral.text, hexp]
  unfold exponentText
  rw [hdigits]
  cases ks with
  | nil => simp [Numeral.placesText, Numeral.scientific, hchars]
  | cons l ls => simp [Numeral.placesText, Numeral.scientific, hchars]

/-! ## The shortest decimal is proper -/

theorem scaled_pos {m : Nat} (h : 0 < m) (e : Int) : 0 < (scaled m e).1 :=
  timesPower_num_pos two_pos h 1 e

/-- Zero is in no interval. -/
theorem Interval.pos_of_contains {m : Nat} (hm : 0 < m) {e : Int} {num den : Nat}
    (hden : 0 < den) (h : (Interval.of m e).contains num den = true) : 0 < num := by
  by_contra hzero
  obtain rfl : num = 0 := by omega
  have hunit : 0 < (scaled 1 (e - 2)).1 := scaled_pos one_pos _
  have hlow : 0 < (Interval.of m e).low * den := by
    unfold Interval.of
    dsimp only
    split
    · have : 0 < 4 * m - 1 := by omega
      positivity
    · have : 0 < 4 * m - 2 := by omega
      positivity
  unfold Interval.contains at h
  simp only [Nat.zero_mul] at h
  split at h
  · simp only [Bool.and_eq_true, decide_eq_true_eq] at h
    omega
  · simp only [Bool.and_eq_true, decide_eq_true_eq] at h
    omega

theorem timesTenPower_pos (n : Nat) {d : Nat} (h : 0 < d) (e : Int) :
    0 < (timesTenPower n d e).2 :=
  timesPower_den_pos (by norm_num) n h e

/-- What is found on a grid lies in the interval. -/
theorem contains_of_gridHit {i : Interval} {tie : Tie} {point : Int} {count n : Nat}
    (h : gridHit i tie point count = some n) : i.containsDecimal n (point - count) = true :=
  List.find?_some (p := fun n => i.containsDecimal n (point - count)) h

/-- A decimal within the interval of a positive float is not zero. -/
theorem pos_of_gridHit {m : Nat} (hm : 0 < m) {e : Int} {tie : Tie} {point : Int}
    {count n : Nat} (h : gridHit (Interval.of m e) tie point count = some n) : 0 < n := by
  have hcontains : (Interval.of m e).contains (timesTenPower n 1 (point - count)).1
      (timesTenPower n 1 (point - count)).2 = true := contains_of_gridHit h
  have hpos := Interval.pos_of_contains hm (timesTenPower_pos n one_pos _) hcontains
  by_contra hzero
  obtain rfl : n = 0 := by omega
  unfold timesTenPower timesPower at hpos
  split at hpos
  · simp at hpos
  · simp at hpos

theorem digitChar_digitValue {c : Char} (h : c.isDigit = true) :
    digitChar (c.toNat - 48) = c := by
  obtain ⟨hlow, hhigh⟩ := toNat_of_isDigit h
  have hc : c = Char.ofNat c.toNat := (Char.ofNat_toNat c).symm
  generalize c.toNat = k at *
  subst hc
  interval_cases k <;> rfl

/-- The digits of a number are its significant digits and then zeros. -/
theorem significantDigits_append (n : Nat) : ∃ count,
    (significantDigits n).map digitChar ++ List.replicate count '0' = Nat.toDigits 10 n := by
  let ds := (Nat.toDigits 10 n).map fun c => c.toNat - 48
  let zeros := ds.reverse.takeWhile (· == 0)
  have hsplit : significantDigits n ++ List.replicate zeros.length 0 = ds := by
    rw [← List.reverse_replicate, ← takeWhile_beq_eq_replicate, significantDigits,
      ← List.reverse_append, List.takeWhile_append_dropWhile, List.reverse_reverse]
  have hchars : ds.map digitChar = Nat.toDigits 10 n := by
    rw [List.map_map, List.map_congr_left (g := id), List.map_id]
    exact fun c hc => digitChar_digitValue (allDigits_toDigits n c hc)
  refine ⟨zeros.length, ?_⟩
  rw [← hchars, ← hsplit, List.map_append, List.map_replicate]
  rfl

theorem significantDigits_lt (n : Nat) : ∀ k ∈ significantDigits n, k < 10 := by
  intro k hk
  rw [significantDigits, List.mem_reverse] at hk
  have hk := List.mem_reverse.mp ((List.dropWhile_suffix _).subset hk)
  obtain ⟨c, hc, rfl⟩ := List.mem_map.mp hk
  have hle := (toNat_of_isDigit (allDigits_toDigits n c hc)).2
  omega

theorem significantDigits_ne_nil {n : Nat} (h : 0 < n) : significantDigits n ≠ [] := by
  intro hnil
  obtain ⟨count, hcount⟩ := significantDigits_append n
  have hvalue := Nat.ofDigitChars_ten_toDigits (n := n)
  rw [← hcount, hnil, List.map_nil, List.nil_append, Nat.ofDigitChars_replicate_zero] at hvalue
  omega

/-- The shortest decimal of a positive float is proper. -/
theorem shortest_proper {m : Nat} (h : 0 < m) (tie : Tie) (e : Int) :
    (shortest tie m e).Proper := by
  unfold shortest
  dsimp only
  split
  · rename_i count n hit
    have hn : 0 < n := by
      obtain ⟨k, -, hk⟩ := List.exists_of_findSome?_eq_some hit
      obtain ⟨_, hgrid, heq⟩ := Option.map_eq_some_iff.mp hk
      obtain ⟨-, rfl⟩ := Prod.mk.inj heq
      exact pos_of_gridHit h hgrid
    exact ⟨significantDigits_ne_nil hn, significantDigits_lt n⟩
  · have hvalue : 0 < (Interval.of m e).value := by
      have hunit : 0 < (scaled 1 (e - 2)).1 := scaled_pos one_pos _
      show 0 < 4 * m * (scaled 1 (e - 2)).1
      positivity
    exact ⟨significantDigits_ne_nil hvalue, significantDigits_lt _⟩

/-! ## Reports -/

/-- The numeral of zero. -/
def Numeral.zero : Numeral where
  whole := ['0']
  places := some ['0']
  exponent := none
  whole_ne_nil := by simp
  whole_digits := allDigits_zeros 1
  places_digits := by
    rintro ps ⟨rfl⟩
    exact allDigits_zeros 1
  exponent_ne_nil := by simp
  exponent_digits := by simp

/-- The layout that a report chooses for a decimal. -/
def Numeral.layout (d : Decimal) (h : d.Proper) : Numeral :=
  if Layout.report.positional d.point then Numeral.positional d h else Numeral.scientific d h

/-- The numeral of a float that is not negative. -/
def Numeral.report (m : Nat) (e : Int) : Numeral :=
  if h : 0 < m then Numeral.layout (shortest .up m e) (shortest_proper h .up e)
  else Numeral.zero

/-- The report of a finite float without a sign is the text of its numeral. -/
theorem report_eq_text {x : Float} {m : Nat} {e : Int} (h : decode x = .finite false m e) :
    (report x).toList = (Numeral.report m e).text := by
  unfold report format Numeral.report Numeral.layout
  rw [h]
  have htie : Layout.report.tie = .up := rfl
  have hkeeps : Layout.report.keepsPlace = true := rfl
  by_cases hm : 0 < m
  · have hne : m ≠ 0 := by omega
    rw [dif_pos hm]
    simp only [hne, htie, hkeeps, Bool.false_eq_true, if_false, String.empty_append]
    split
    · exact positionalText_eq _ _
    · exact exponentText_eq _ _
  · obtain rfl : m = 0 := by omega
    rw [dif_neg hm]
    simp only [hkeeps, Bool.false_eq_true, if_false, if_true, String.empty_append]
    rfl

/-- A report is never only digits. -/
theorem Numeral.report_places_or_exponent (m : Nat) (e : Int) :
    (Numeral.report m e).places ≠ none ∨ (Numeral.report m e).exponent ≠ none := by
  unfold Numeral.report Numeral.layout
  split
  · split
    · left
      unfold Numeral.positional
      split
      · simp
      · split <;> simp
    · exact .inr (by simp [Numeral.scientific])
  · exact .inl (by simp [Numeral.zero])

end RowSignals.Number
