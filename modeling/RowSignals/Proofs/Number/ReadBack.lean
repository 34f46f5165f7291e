import RowSignals.Proofs.Number.Shortest

/-!
# Floats are read back

The report of a float that is not negative is read as the same float.

* `ofDecimal_of_nearest`: digits whose value is nearest to a float are read as it.
* `Numeral.layout_value`: either layout of a decimal keeps its value.
* `readFloat?_report`: reading undoes reporting.
-/

namespace RowSignals.Number

/-! ## Leading zeros and the size of a decimal -/

theorem digitsValue_dropZeros (cs : List Char) :
    digitsValue (cs.dropWhile (· == '0')) = digitsValue cs := by
  conv_rhs => rw [← List.takeWhile_append_dropWhile (p := (· == '0')) (l := cs),
    takeWhile_beq_eq_replicate]
  rw [digitsValue_append, digitsValue_zeros, Nat.zero_mul, Nat.zero_add]

/-- The first digit is worth a power of ten for each of the others. -/
theorem digitsValue_cons (c : Char) (cs : List Char) :
    digitsValue (c :: cs) = digitValue c * 10 ^ cs.length + digitsValue cs := by
  have h := digitsValue_append [c] cs
  have hone : digitsValue [c] = digitValue c := by
    simp [digitsValue, digitsValueFrom]
  rw [hone] at h
  exact h

theorem digitValue_lt {c : Char} (h : c.isDigit = true) : digitValue c < 10 := by
  have hhigh := (toNat_of_isDigit h).2
  unfold digitValue
  omega

/-- Digits are worth less than the power of ten of their number. -/
theorem digitsValue_lt {cs : List Char} (h : AllDigits cs) : digitsValue cs < 10 ^ cs.length := by
  induction cs with
  | nil => exact one_pos
  | cons c cs ih =>
    have hc := digitValue_lt (h c List.mem_cons_self)
    have hcs := ih fun d hd => h d (List.mem_cons_of_mem c hd)
    rw [digitsValue_cons, List.length_cons, Nat.pow_succ]
    calc digitValue c * 10 ^ cs.length + digitsValue cs
        < digitValue c * 10 ^ cs.length + 10 ^ cs.length := Nat.add_lt_add_left hcs _
      _ = (digitValue c + 1) * 10 ^ cs.length := (Nat.succ_mul _ _).symm
      _ ≤ 10 * 10 ^ cs.length := Nat.mul_le_mul_right _ hc
      _ = 10 ^ cs.length * 10 := Nat.mul_comm _ _

theorem digitValue_pos {c : Char} (h : c.isDigit = true) (hc : c ≠ '0') : 0 < digitValue c := by
  have hlow := (toNat_of_isDigit h).1
  have hne : c.toNat ≠ 48 := fun heq => hc (Char.toNat_inj.mp heq)
  unfold digitValue
  omega

/-- The value of digits without leading zeros is at least the power of ten of the first. -/
theorem le_digitsValue_dropZeros {cs : List Char} (h : AllDigits cs) (hpos : 0 < digitsValue cs) :
    10 ^ ((cs.dropWhile (· == '0')).length - 1) ≤ digitsValue (cs.dropWhile (· == '0')) := by
  cases hsig : cs.dropWhile (· == '0') with
  | nil =>
    rw [← digitsValue_dropZeros, hsig] at hpos
    exact absurd hpos (by decide)
  | cons c ds =>
    have hc : c ≠ '0' := by
      have hstop := List.head?_dropWhile_not (· == '0') cs
      rw [hsig] at hstop
      simpa using hstop
    have hdigit : c.isDigit = true := by
      refine h c ((List.dropWhile_suffix (· == '0')).subset ?_)
      rw [hsig]
      exact List.mem_cons_self
    rw [digitsValue_cons, List.length_cons, Nat.add_sub_cancel]
    have := Nat.mul_le_mul_right (10 ^ ds.length) (digitValue_pos hdigit hc)
    omega

/-- Digits between two powers of ten, shifted by a further power. -/
theorem size_bounds {cs : List Char} (hge : 10 ^ (cs.length - 1) ≤ digitsValue cs)
    (hlt : digitsValue cs < 10 ^ cs.length) (p : Int) :
    (10 : ℚ) ^ (cs.length + p - 1) ≤ digitsValue cs * 10 ^ p
      ∧ (digitsValue cs * 10 ^ p : ℚ) < 10 ^ (cs.length + p) := by
  have hlength : 0 < cs.length := by
    by_contra hzero
    have hzero : cs.length = 0 := by omega
    rw [hzero] at hge hlt
    omega
  have hge : ((10 ^ (cs.length - 1) : Nat) : ℚ) ≤ digitsValue cs := by exact_mod_cast hge
  have hlt : (digitsValue cs : ℚ) < (10 ^ cs.length : Nat) := by exact_mod_cast hlt
  push_cast at hge hlt
  constructor
  · calc (10 : ℚ) ^ (cs.length + p - 1) = 10 ^ (cs.length - 1) * 10 ^ p := by
          rw [← zpow_natCast, ← zpow_add₀ (by norm_num)]
          congr 1
          omega
      _ ≤ digitsValue cs * 10 ^ p := by gcongr
  · calc (digitsValue cs * 10 ^ p : ℚ) < 10 ^ cs.length * 10 ^ p := by gcongr
      _ = 10 ^ (cs.length + p) := by rw [zpow_add₀ (by norm_num), zpow_natCast]

/-! ## Reading digits -/

/-- What is rounded to a positive float is in the range of floats, or half the least float. -/
theorem Nearest.range {m : Nat} {e : Int} {q : ℚ} (h : Nearest m e q) (hc : Canonical m e)
    (hm : 0 < m) : (2 : ℚ) ^ (-1075 : Int) ≤ q ∧ q < 2 ^ (1024 : Int) := by
  have hege := hc.exponent_ge
  have hele := hc.exponent_le
  constructor
  · have hone : (1 : ℚ) ≤ m := by exact_mod_cast hm
    have hgap := gapBelow_le m e
    calc (2 : ℚ) ^ (-1075 : Int) ≤ 2 ^ (-1 + e) := zpow_le_zpow_right₀ one_le_two (by omega)
      _ = 1 / 2 * 2 ^ e := by
        rw [zpow_add₀ two_ne_zero]
        norm_num
      _ ≤ (m - gapBelow m e) * 2 ^ e := by
        gcongr
        linarith
      _ ≤ q := h.ge
  · calc q < 2 ^ (e + 53) := h.lt_two_zpow hc.mantissa_lt
      _ ≤ 2 ^ (1024 : Int) := zpow_le_zpow_right₀ one_le_two (by omega)

/-- A fraction that is nearest to a float is rounded to it. -/
theorem ofRatio_of_nearest {x : Float} {m : Nat} {e : Int} (hx : decode x = .finite false m e)
    {num den : Nat} (hn : 0 < num) (hd : 0 < den) (h : Nearest m e (num / den)) :
    ofRatio false num den = x := by
  rw [ofRatio, nearestMagnitude_of_nearest (canonical_of_decode hx) hn hd h]
  exact ofMagnitude_magnitude hx

/-- Digits whose value is nearest to a positive float are read as it. -/
theorem ofDecimal_of_nearest {x : Float} {m : Nat} {e : Int} (hx : decode x = .finite false m e)
    (hm : 0 < m) {cs : List Char} (hcs : AllDigits cs) {p : Int}
    (h : Nearest m e (digitsValue cs * 10 ^ p)) : ofDecimal false cs p = x := by
  obtain ⟨hmin, hmax⟩ := h.range (canonical_of_decode hx) hm
  have hpos : 0 < digitsValue cs := by
    by_contra hzero
    have hzero : digitsValue cs = 0 := by omega
    rw [hzero, Nat.cast_zero, zero_mul] at hmin
    exact absurd hmin (not_le.mpr (by positivity))
  have hge := le_digitsValue_dropZeros hcs hpos
  have hlt : digitsValue (cs.dropWhile (· == '0')) < 10 ^ (cs.dropWhile (· == '0')).length :=
    digitsValue_lt fun c hc => hcs c ((List.dropWhile_suffix _).subset hc)
  rw [← digitsValue_dropZeros] at h hmin hmax hpos
  unfold ofDecimal
  dsimp only [Nat.pow_eq]
  generalize cs.dropWhile (· == '0') = sig at *
  obtain ⟨hfirst, hlast⟩ := size_bounds hge hlt p
  have hne : sig.isEmpty = false := by
    cases sig with
    | nil => exact absurd hpos (by decide)
    | cons c sig => rfl
  -- the sizes that are cut off are out of the range of floats
  have hhigh : ¬ 310 < (sig.length : Int) + p := by
    intro hsize
    have hbound : (2 : ℚ) ^ (1024 : Int) ≤ 10 ^ (sig.length + p - 1) :=
      two_zpow_le_ten_zpow (by omega) (by omega)
    exact absurd (hbound.trans hfirst) (not_le.mpr hmax)
  have hlow : ¬ (sig.length : Int) + p < -340 := by
    intro hsize
    have hbound : (10 : ℚ) ^ (sig.length + p) ≤ 2 ^ (-1075 : Int) :=
      ten_zpow_le_two_zpow (by omega) (by omega)
    exact absurd (hbound.trans hmin) (not_le.mpr hlast)
  rw [hne, if_neg Bool.false_ne_true, if_neg hhigh, if_neg hlow]
  split
  · rename_i hp
    obtain ⟨k, rfl⟩ := Int.eq_ofNat_of_zero_le hp
    rw [Int.toNat_natCast]
    refine ofRatio_of_nearest hx (by positivity) one_pos ?_
    rw [zpow_natCast] at h
    push_cast
    rw [div_one]
    exact h
  · rename_i hp
    obtain ⟨k, hk⟩ := Int.eq_ofNat_of_zero_le (show 0 ≤ -p by omega)
    obtain rfl : p = -(k : Int) := by omega
    rw [Int.neg_neg, Int.toNat_natCast]
    refine ofRatio_of_nearest hx hpos (by positivity) ?_
    rw [zpow_neg, zpow_natCast] at h
    push_cast
    exact h

/-! ## The value of a numeral -/

/-- The number that a numeral stands for. -/
def Numeral.value (n : Numeral) : ℚ :=
  digitsValue n.digits * 10 ^ n.power

/-- A decimal laid out around the point keeps its value. -/
theorem Numeral.positional_value (d : Decimal) (h : d.Proper) :
    (Numeral.positional d h).value = d.value := by
  unfold Numeral.positional
  split
  · -- Zeros between the point and the digits add nothing to their number.
    rename_i hlow
    simp only [Numeral.value, Numeral.digits, Numeral.power, Numeral.exponentValue,
      Option.getD_some, Decimal.value, List.length_append, List.length_replicate]
    rw [← List.append_assoc, List.singleton_append, ← List.replicate_succ, digitsValue_append,
      digitsValue_zeros, Nat.zero_mul, Nat.zero_add]
    congr 2
    omega
  · rename_i hlow
    split
    · rename_i hhigh
      simp only [Numeral.value, Numeral.digits, Numeral.power, Numeral.exponentValue,
        Option.getD_some, Decimal.value]
      have hzero : digitsValue ['0'] = 0 := digitsValue_zeros 1
      have htenth : (10 : ℚ) ^ (0 - ((1 : Nat) : Int)) = 1 / 10 := by norm_num
      -- Zeros behind the digits multiply it, and the place after the point is a zero.
      obtain ⟨k, hk⟩ := Int.eq_ofNat_of_zero_le (show 0 ≤ d.point - d.chars.length by omega)
      rw [digitsValue_append, digitsValue_append, digitsValue_zeros, hzero, List.length_replicate,
        List.length_singleton, htenth, hk, Int.toNat_natCast, zpow_natCast]
      push_cast
      ring
    · simp only [Numeral.value, Numeral.digits, Numeral.power, Numeral.exponentValue,
        Option.getD_some, Decimal.value, List.take_append_drop, List.length_drop]
      congr 2
      omega

theorem Numeral.scientific_value (d : Decimal) (h : d.Proper) :
    (Numeral.scientific d h).value = d.value := by
  have hpos := List.length_pos_iff.mpr h.chars_ne_nil
  have hexponent : (Numeral.scientific d h).exponentValue = d.point - 1 := by
    unfold Numeral.scientific Numeral.exponentValue
    by_cases hneg : d.point - 1 < 0
    · simp only [hneg, decide_true, digitsValue_toDigits]
      omega
    · simp only [hneg, decide_false, digitsValue_toDigits]
      omega
  have hplaces : (Numeral.scientific d h).places.getD [] = d.chars.drop 1 := by
    unfold Numeral.scientific
    dsimp only
    split
    · rename_i hone
      rw [Option.getD_none, List.drop_eq_nil_of_le hone.le]
    · rfl
  have hwhole : (Numeral.scientific d h).whole = d.chars.take 1 := rfl
  rw [Numeral.value, Numeral.digits, Numeral.power, hexponent, hplaces, hwhole,
    List.take_append_drop, List.length_drop, Decimal.value]
  congr 2
  omega

theorem Numeral.layout_value (d : Decimal) (h : d.Proper) :
    (Numeral.layout d h).value = d.value := by
  unfold Numeral.layout
  split
  · exact Numeral.positional_value d h
  · exact Numeral.scientific_value d h

/-! ## Reading a report -/

/-- The report of a finite float without a sign is read back as that float. -/
theorem readFloat?_report {x : Float} {m : Nat} {e : Int} (h : decode x = .finite false m e) :
    readFloat? (report x).toList = some x := by
  rw [report_eq_text h, readFloat?_text]
  congr 1
  unfold Numeral.report
  by_cases hm : 0 < m
  · rw [dif_pos hm]
    refine ofDecimal_of_nearest h hm (Numeral.digits_allDigits _) ?_
    have hnearest := shortest_nearest (canonical_of_decode h) hm .up
    rw [← Numeral.layout_value _ (shortest_proper hm .up e)] at hnearest
    exact hnearest
  · rw [dif_neg hm]
    obtain rfl : m = 0 := by omega
    have hzero : ofDecimal false Numeral.zero.digits Numeral.zero.power = ofMagnitude false 0 := by
      simp [ofDecimal, Numeral.digits, Numeral.zero]
    have hmagnitude : magnitude 0 e = 0 := if_pos (by norm_num)
    rw [hzero, ← hmagnitude]
    exact ofMagnitude_magnitude h

end RowSignals.Number
