import Mathlib
import RowSignals.Number.Reading

/-!
# Numerals

The texts of numbers without a sign: digits, perhaps a point with further digits, and perhaps
an exponent.

* `Numeral`: the parts of such a text; `Numeral.text`: the text itself.
* `readFloat?_text`: what is read from the text is the decimal of all its digits, shifted by
  the exponent.
-/

namespace RowSignals.Number

/-! ## Runs of characters -/

/-- A text that does not go on with a character of a class. -/
def Stops (p : Char → Bool) (cs : List Char) : Prop :=
  ∀ c ∈ cs.head?, p c = false

theorem Stops.nil (p : Char → Bool) : Stops p [] :=
  nofun

theorem Stops.cons {p : Char → Bool} {c : Char} (cs : List Char) (h : p c = false) :
    Stops p (c :: cs) := by
  rintro d ⟨rfl⟩
  exact h

/-- A text stops a class of characters if its first one, if any, is not of the class. -/
theorem stops_iff {p : Char → Bool} {cs : List Char} : Stops p cs ↔ ¬ cs.head?.any p = true := by
  rw [Bool.not_eq_true, Option.any_eq_false]
  rfl

/-- Taking a class of characters takes all of them, where the rest stops it. -/
theorem takeWhile_append_stop {p : Char → Bool} {cs rest : List Char}
    (hc : ∀ c ∈ cs, p c = true) (hr : Stops p rest) : (cs ++ rest).takeWhile p = cs := by
  rw [List.takeWhile_append_of_pos hc]
  cases rest with
  | nil => exact List.append_nil cs
  | cons c rest => rw [List.takeWhile_cons, hr c rfl, if_neg Bool.false_ne_true, List.append_nil]

/-- Dropping a class of characters leaves the rest, where it stops the class. -/
theorem dropWhile_append_stop {p : Char → Bool} {cs rest : List Char}
    (hc : ∀ c ∈ cs, p c = true) (hr : Stops p rest) : (cs ++ rest).dropWhile p = rest := by
  rw [List.dropWhile_append_of_pos hc]
  cases rest with
  | nil => rfl
  | cons c rest => rw [List.dropWhile_cons, hr c rfl, if_neg Bool.false_ne_true]

/-- What is taken while it is one thing is nothing else. -/
theorem takeWhile_beq_eq_replicate {α : Type} [DecidableEq α] (a : α) (items : List α) :
    items.takeWhile (· == a) = List.replicate (items.takeWhile (· == a)).length a := by
  rw [List.eq_replicate_iff]
  exact ⟨rfl, fun b hb => beq_iff_eq.mp (List.mem_takeWhile_imp (p := (· == a)) hb)⟩

/-- The decimal digits lie between the code points of zero and nine. -/
theorem toNat_of_isDigit {c : Char} (h : c.isDigit = true) : 48 ≤ c.toNat ∧ c.toNat ≤ 57 := by
  simp only [Char.isDigit, Bool.and_eq_true, decide_eq_true_eq] at h
  exact h

/-- Nothing but decimal digits. -/
def AllDigits (cs : List Char) : Prop :=
  ∀ c ∈ cs, c.isDigit = true

theorem AllDigits.append {cs ds : List Char} (hc : AllDigits cs) (hd : AllDigits ds) :
    AllDigits (cs ++ ds) := by
  intro c hmem
  rcases List.mem_append.mp hmem with hmem | hmem
  · exact hc c hmem
  · exact hd c hmem

theorem allDigits_nil : AllDigits [] :=
  fun _ h => nomatch h

/-- Digits are cut off as a whole where no digit follows. -/
theorem spanDigits_append {ds rest : List Char} (hd : AllDigits ds)
    (hr : Stops Char.isDigit rest) : spanDigits (ds ++ rest) = (ds, rest) := by
  rw [spanDigits, List.span_eq_takeWhile_dropWhile, takeWhile_append_stop hd hr,
    dropWhile_append_stop hd hr]

/-! ## Numerals -/

/-- A number without a sign: digits, perhaps a point with further digits, and perhaps an
exponent, which may be negative. -/
structure Numeral where
  whole : List Char
  places : Option (List Char)
  exponent : Option (Bool × List Char)
  whole_ne_nil : whole ≠ []
  whole_digits : AllDigits whole
  places_digits : ∀ ps ∈ places, AllDigits ps
  exponent_ne_nil : ∀ e ∈ exponent, e.2 ≠ []
  exponent_digits : ∀ e ∈ exponent, AllDigits e.2

namespace Numeral

/-- The point and the digits after it. -/
def placesText (n : Numeral) : List Char :=
  match n.places with
  | some ps => '.' :: ps
  | none => []

/-- The exponent with its mark. -/
def exponentText (n : Numeral) : List Char :=
  match n.exponent with
  | some (true, ds) => 'e' :: '-' :: ds
  | some (false, ds) => 'e' :: ds
  | none => []

/-- The text of a numeral. -/
def text (n : Numeral) : List Char :=
  n.whole ++ n.placesText ++ n.exponentText

/-- All digits before the exponent. -/
def digits (n : Numeral) : List Char :=
  n.whole ++ n.places.getD []

/-- The number that the exponent writes. -/
def exponentValue (n : Numeral) : Int :=
  match n.exponent with
  | some (true, ds) => -(digitsValue ds : Int)
  | some (false, ds) => digitsValue ds
  | none => 0

/-- The power of ten by which the number of all digits is shifted. -/
def power (n : Numeral) : Int :=
  n.exponentValue - (n.places.getD []).length

theorem digits_allDigits (n : Numeral) : AllDigits n.digits := by
  refine n.whole_digits.append ?_
  cases h : n.places with
  | none => exact allDigits_nil
  | some ps => exact n.places_digits ps h

/-- The exponent of a numeral, or what follows the numeral, starts with no digit. -/
theorem exponentText_stops (n : Numeral) {rest : List Char} (hr : Stops Char.isDigit rest) :
    Stops Char.isDigit (n.exponentText ++ rest) := by
  unfold exponentText
  split
  · exact .cons _ rfl
  · exact .cons _ rfl
  · exact hr

theorem placesText_eq_nil_iff {n : Numeral} : n.placesText = [] ↔ n.places = none := by
  unfold placesText
  cases n.places with
  | none => simp
  | some ps => simp

/-- Nothing is written for an exponent that is missing. -/
theorem exponentText_eq_nil_iff {n : Numeral} : n.exponentText = [] ↔ n.exponent = none := by
  unfold exponentText
  rcases n.exponent with _ | ⟨_ | _, ds⟩
  · simp
  · simp
  · simp

/-- The text starts with a digit. -/
theorem text_eq_cons (n : Numeral) : ∃ c cs, n.text = c :: cs ∧ c.isDigit = true := by
  obtain ⟨c, cs, hw⟩ := List.exists_cons_of_ne_nil n.whole_ne_nil
  refine ⟨c, cs ++ n.placesText ++ n.exponentText, ?_, ?_⟩
  · rw [text, hw, List.cons_append, List.cons_append]
  · exact n.whole_digits c (by rw [hw]; exact List.mem_cons_self)

/-- The digits of a numeral end where its point, its exponent or the rest of the text
starts. -/
theorem tail_stops (n : Numeral) {rest : List Char} (hr : Stops Char.isDigit rest) :
    Stops Char.isDigit (n.placesText ++ (n.exponentText ++ rest)) := by
  unfold placesText
  split
  · exact .cons _ rfl
  · exact n.exponentText_stops hr

end Numeral

/-! ## Natural numbers -/

theorem allDigits_toDigits (n : Nat) : AllDigits (Nat.toDigits 10 n) :=
  fun _ hc => Nat.isDigit_of_mem_toDigits (by decide) (by decide) hc

theorem digitsValue_toDigits (n : Nat) : digitsValue (Nat.toDigits 10 n) = n :=
  Nat.ofDigitChars_ten_toDigits

/-- Digits are worth the ones in front, moved up, and the ones behind. -/
theorem digitsValue_append (cs ds : List Char) :
    digitsValue (cs ++ ds) = digitsValue cs * 10 ^ ds.length + digitsValue ds := by
  have happend : digitsValue (cs ++ ds) = Nat.ofDigitChars 10 ds (digitsValue cs) :=
    Nat.ofDigitChars_append 0
  rw [happend, Nat.ofDigitChars_eq_ofDigitChars_zero, Nat.mul_comm]
  rfl

theorem digitsValue_zeros (count : Nat) : digitsValue (List.replicate count '0') = 0 :=
  Nat.ofDigitChars_replicate_zero

/-- The numeral of a natural number. -/
def Numeral.natural (n : Nat) : Numeral where
  whole := Nat.toDigits 10 n
  places := none
  exponent := none
  whole_ne_nil := Nat.toDigits_ne_nil
  whole_digits := allDigits_toDigits n
  places_digits := nofun
  exponent_ne_nil := nofun
  exponent_digits := nofun

/-! ## Reading a numeral -/

/-- A text that starts with a digit is without a sign. -/
theorem splitSign_digit {c : Char} {cs : List Char} (h : c.isDigit = true) :
    splitSign (c :: cs) = (false, c :: cs) := by
  unfold splitSign
  split
  · rename_i heq
    cases heq
    exact absurd h (by decide)
  · rename_i heq
    cases heq
    exact absurd h (by decide)
  · rfl

theorem toLower_of_isDigit {c : Char} (h : c.isDigit = true) : c.toLower = c := by
  simp only [Char.isDigit, Bool.and_eq_true, decide_eq_true_eq] at h
  refine dif_neg ?_
  rintro ⟨hle, -⟩
  exact absurd (UInt32.le_trans hle h.2) (by decide)

/-- Digits, at least one, are read as the number that they write. -/
theorem readNat?_digits {ds : List Char} (hne : ds ≠ []) (hd : AllDigits ds) :
    readNat? ds = some (digitsValue ds) := by
  have hall : ds.all Char.isDigit = true := List.all_eq_true.mpr hd
  have hempty : ds.isEmpty = false := List.isEmpty_eq_false_iff.mpr hne
  simp [readNat?, hall, hempty]

/-- The exponent of a numeral is read as its value, and a missing one as zero. -/
theorem readExponent?_exponentText (n : Numeral) :
    readExponent? n.exponentText = some n.exponentValue := by
  unfold Numeral.exponentText Numeral.exponentValue
  cases h : n.exponent with
  | none => rfl
  | some e =>
    obtain ⟨negative, ds⟩ := e
    have hne := n.exponent_ne_nil _ h
    have hd := n.exponent_digits _ h
    cases negative with
    | true => simp [readExponent?, splitSign, readNat?_digits hne hd]
    | false =>
      obtain ⟨c, cs, rfl⟩ := List.exists_cons_of_ne_nil hne
      have hc := hd c List.mem_cons_self
      simp [readExponent?, splitSign_digit hc, readNat?_digits hne hd]

/-- A numeral is read as the decimal of its digits and its power of ten. -/
theorem readDecimal?_text (n : Numeral) :
    readDecimal? false n.text = some (ofDecimal false n.digits n.power) := by
  have hspan : spanDigits n.text = (n.whole, n.placesText ++ n.exponentText) := by
    have htail := n.tail_stops (.nil _)
    rw [List.append_nil] at htail
    rw [Numeral.text, List.append_assoc]
    exact spanDigits_append n.whole_digits htail
  have hplaces : spanPlaces (n.placesText ++ n.exponentText)
      = (n.places.getD [], n.exponentText) := by
    unfold Numeral.placesText
    cases h : n.places with
    | some ps =>
      rw [← List.append_nil n.exponentText]
      exact spanDigits_append (n.places_digits ps h) (n.exponentText_stops (.nil _))
    | none =>
      unfold Numeral.exponentText
      rcases n.exponent with _ | ⟨_ | _, ds⟩ <;> rfl
  have hwhole : n.whole.isEmpty = false := List.isEmpty_eq_false_iff.mpr n.whole_ne_nil
  simp only [readDecimal?, hspan, hplaces, readExponent?_exponentText, hwhole]
  rfl

/-- A text that starts with a digit or a point has no sign and is no word. -/
theorem readFloat?_eq_readDecimal? {c : Char} (cs : List Char)
    (hc : c.isDigit = true ∨ c = '.') : readFloat? (c :: cs) = readDecimal? false (c :: cs) := by
  have hlower : c.toLower = c := by
    rcases hc with hc | rfl
    · exact toLower_of_isDigit hc
    · rfl
  have hsign : splitSign (c :: cs) = (false, c :: cs) := by
    rcases hc with hc | rfl
    · exact splitSign_digit hc
    · rfl
  -- No word for infinity or for no number starts with such a character.
  have hne (letter : Char) (more : List Char) (hletter : letter.isDigit = false)
      (hpoint : letter ≠ '.') :
      String.ofList ((c :: cs).map Char.toLower) ≠ String.ofList (letter :: more) := by
    intro heq
    have hlist := String.ofList_injective heq
    rw [List.map_cons, hlower] at hlist
    obtain ⟨rfl, -⟩ := List.cons.inj hlist
    rcases hc with hc | rfl
    · cases hletter.symm.trans hc
    · exact hpoint rfl
  rw [readFloat?, hsign]
  dsimp only
  split
  · rename_i heq
    exact absurd heq (hne 'i' ['n', 'f'] rfl (by decide))
  · rename_i heq
    exact absurd heq (hne 'i' ['n', 'f', 'i', 'n', 'i', 't', 'y'] rfl (by decide))
  · rename_i heq
    exact absurd heq (hne 'n' ['a', 'n'] rfl (by decide))
  · rfl

/-- What is read from the text of a numeral is the decimal of its digits. -/
theorem readFloat?_text (n : Numeral) :
    readFloat? n.text = some (ofDecimal false n.digits n.power) := by
  obtain ⟨c, cs, htext, hc⟩ := n.text_eq_cons
  rw [htext, readFloat?_eq_readDecimal? cs (.inl hc), ← htext]
  exact readDecimal?_text n

end RowSignals.Number
