import RowSignals.Expr.Lexer
import RowSignals.Expr.Printer
import RowSignals.Proofs.Number.ReadBack

/-!
# The tokens of a text

The lexer keeps places and fuel. For what a text says only the kinds of its tokens matter, and
those follow from the text alone, token by token.

* `kinds`: the kinds of the tokens of a text; `kinds_tokenize`: they are what the lexer finds.
* `kinds_word`, `kinds_numeral`, `kinds_quoteText`: one token of each class, whatever text
  follows that cannot continue it.
-/

namespace RowSignals.Expr.Lexer

open Number (Numeral Stops takeWhile_append_stop dropWhile_append_stop)

/-! ## What the scanners leave -/

theorem skipBlanksFrom_length_le (inComment : Bool) (cs : List Char) :
    (skipBlanksFrom inComment cs).length ≤ cs.length := by
  fun_induction skipBlanksFrom inComment cs with
  | case1 => exact Nat.le_refl _
  | case2 rest ih => exact Nat.le_succ_of_le ih
  | case3 c rest hc ih => exact Nat.le_succ_of_le ih
  | case4 => grind
  | case5 => grind
  | case6 => grind

theorem skipBlanks_length_le (cs : List Char) : (skipBlanks cs).length ≤ cs.length :=
  skipBlanksFrom_length_le false cs

/-- Cutting off digits adds no characters, and so it is for the scanners below. -/
theorem spanDigits_length_le (cs : List Char) :
    (Number.spanDigits cs).2.length ≤ cs.length := by
  rw [Number.spanDigits, List.span_eq_takeWhile_dropWhile]
  exact (List.dropWhile_suffix _).length_le

theorem scanPlaces_length_le (cs : List Char) : (scanPlaces cs).2.length ≤ cs.length := by
  unfold scanPlaces
  split
  · exact Nat.le_succ_of_le (spanDigits_length_le _)
  · exact Nat.le_refl _

theorem scanExponent_length_le (cs : List Char) : (scanExponent cs).2.length ≤ cs.length := by
  fun_cases scanExponent cs with
  | case1 => exact Nat.le_refl _
  | _ => grind [spanDigits_length_le]

theorem scanNumber_length_le (cs : List Char) :
    (scanNumber cs).2.length ≤ (scanPlaces (Number.spanDigits cs).2).2.length := by
  have hexponent := scanExponent_length_le (scanPlaces (Number.spanDigits cs).2).2
  unfold scanNumber
  dsimp only
  split
  · exact Nat.le_trans (List.dropWhile_suffix _).length_le hexponent
  · split
    · exact hexponent
    · split
      · exact hexponent
      · exact hexponent

/-- A number that starts with a digit takes at least that. -/
theorem scanNumber_digit_length_le {c : Char} (cs : List Char) (h : c.isDigit = true) :
    (scanNumber (c :: cs)).2.length ≤ cs.length := by
  have hspan : (Number.spanDigits (c :: cs)).2 = (Number.spanDigits cs).2 := by
    simp [Number.spanDigits, List.span_eq_takeWhile_dropWhile, h]
  calc (scanNumber (c :: cs)).2.length
      ≤ (scanPlaces (Number.spanDigits (c :: cs)).2).2.length := scanNumber_length_le _
    _ ≤ (Number.spanDigits (c :: cs)).2.length := scanPlaces_length_le _
    _ ≤ cs.length := by
      rw [hspan]
      exact spanDigits_length_le cs

/-- A number that starts with a point takes at least that. -/
theorem scanNumber_point_length_le (cs : List Char) :
    (scanNumber ('.' :: cs)).2.length ≤ cs.length :=
  Nat.le_trans (scanNumber_length_le _) (spanDigits_length_le cs)

/-- A text in quotes leaves no more than there was after its quote. -/
theorem scanString_length_le (quote : Char) (cs : List Char) :
    (scanString quote cs).2.length ≤ cs.length := by
  fun_induction scanString quote cs with
  | case1 => exact Nat.le_refl _
  | _ => grind [prepend]

theorem either_length_le (c : Char) (longer shorter : TokenKind) (cs : List Char) :
    (either c longer shorter cs).2.length ≤ cs.length := by
  unfold either
  split
  · split <;> simp
  · exact Nat.le_refl _

/-- A token takes its first character and perhaps more, never the rest of the text. -/
theorem scanToken_length_le (c : Char) (cs : List Char) :
    (scanToken c cs).2.length ≤ cs.length := by
  unfold scanToken
  split
  -- a point starts a number or stands alone
  case h_9 =>
    split
    · exact scanNumber_point_length_le cs
    · exact Nat.le_refl _
  -- quotes, digits and the starts of names are told apart last
  case h_16 =>
    split
    · have h := scanString_length_le c cs
      split
      · simp_all
      · simp_all
    · split
      · rename_i hdigit
        exact scanNumber_digit_length_le cs hdigit
      · split
        · exact (List.dropWhile_suffix _).length_le
        · exact Nat.le_refl _
  case h_10 | h_11 | h_12 | h_13 | h_14 | h_15 => exact either_length_le ..
  all_goals exact Nat.le_refl _

/-! ## The kinds of the tokens of a text -/

/-- The kinds of the tokens of a text. -/
def kinds (cs : List Char) : List TokenKind :=
  match _h : skipBlanks cs with
  | [] => []
  | c :: rest => (scanToken c rest).1 :: kinds (scanToken c rest).2
termination_by cs.length
decreasing_by
  have hskip := skipBlanks_length_le cs
  have hscan := scanToken_length_le c rest
  simp only [_h, List.length_cons] at hskip
  omega

/-- Neither the place where a text starts nor fuel beyond its length changes the kinds of its
tokens. -/
theorem kinds_tokensFrom {fuel : Nat} (place : Position) {cs : List Char}
    (h : cs.length ≤ fuel) : (tokensFrom fuel place cs).kinds = kinds cs := by
  induction fuel generalizing place cs with
  | zero =>
    obtain rfl := List.eq_nil_of_length_eq_zero (Nat.le_zero.mp h)
    rw [kinds]
    rfl
  | succ fuel ih =>
    rw [kinds, tokensFrom.eq_def]
    cases hs : skipBlanks cs with
    | nil => simp [Tokens.kinds]
    | cons c rest =>
      have hskip := skipBlanks_length_le cs
      have hscan := scanToken_length_le c rest
      rw [hs, List.length_cons] at hskip
      have hrest (next : Position) : (tokensFrom fuel next (scanToken c rest).2).kinds
          = kinds (scanToken c rest).2 := ih next (by omega)
      exact congrArg ((scanToken c rest).1 :: ·) (hrest _)

/-- The kinds of the tokens of a text do not depend on places. -/
theorem kinds_tokenize (source : String) : (tokenize source).kinds = kinds source.toList :=
  kinds_tokensFrom _ (Nat.le_refl _)

theorem kinds_nil : kinds [] = [] := by
  rw [kinds]
  rfl

theorem kinds_blank {c : Char} (cs : List Char) (h : isBlank c = true) :
    kinds (c :: cs) = kinds cs := by
  have hskip : skipBlanks (c :: cs) = skipBlanks cs := by
    simp [skipBlanks, skipBlanksFrom, h]
  rw [kinds, kinds, hskip]

/-- A character that is no blank and opens no comment starts a token. -/
theorem kinds_cons {c : Char} (cs : List Char) (hblank : isBlank c = false) (hc : c ≠ '#') :
    kinds (c :: cs) = (scanToken c cs).1 :: kinds (scanToken c cs).2 := by
  have hskip : skipBlanks (c :: cs) = c :: cs := by
    simp [skipBlanks, skipBlanksFrom, hblank, hc]
  rw [kinds, hskip]

/-! ## Words and numbers -/

theorem isNamePart_of_isNameStart {c : Char} (h : isNameStart c = true) : isNamePart c = true := by
  simp only [isNameStart, Bool.or_eq_true] at h
  simp only [isNamePart, Char.isAlphanum, Bool.or_eq_true]
  tauto

/-- A text that goes on with no part of a name does not start with a name. -/
theorem stops_nameStart {cs : List Char} (h : Stops isNamePart cs) : Stops isNameStart cs := by
  intro c hc
  by_contra hstart
  have hpart := isNamePart_of_isNameStart (Bool.not_eq_false _ ▸ hstart)
  rw [h c hc] at hpart
  cases hpart

theorem isNamePart_of_isDigit {c : Char} (h : c.isDigit = true) : isNamePart c = true := by
  simp [isNamePart, Char.isAlphanum, h]

theorem not_isDigit_of_isNameStart {c : Char} (h : isNameStart c = true) :
    ¬ c.isDigit = true := by
  intro hdigit
  obtain ⟨hlow, hhigh⟩ := Number.toNat_of_isDigit hdigit
  have hc : c = Char.ofNat c.toNat := (Char.ofNat_toNat c).symm
  generalize c.toNat = k at *
  subst hc
  interval_cases k
  all_goals exact absurd h (by decide)

/-- A part of a name is no sign, so that it starts a number or a name. -/
theorem scanToken_namePart {c : Char} (cs : List Char) (h : isNamePart c = true) :
    scanToken c cs = if c.isDigit then scanNumber (c :: cs) else scanName c cs := by
  unfold scanToken
  split
  -- of all the characters that `scanToken` looks for, none is part of a name
  case h_16 =>
    have hquote : ¬ (decide (c = '"') || decide (c = '\x27')) = true := by
      rw [Bool.or_eq_true, decide_eq_true_eq, decide_eq_true_eq]
      rintro (rfl | rfl)
      · exact absurd h (by decide)
      · exact absurd h (by decide)
    rw [if_neg hquote]
    by_cases hdigit : c.isDigit = true
    · rw [if_pos hdigit, if_pos hdigit]
    · have hstart : isNameStart c = true := by
        simpa [isNamePart, isNameStart, Char.isAlphanum, hdigit] using h
      rw [if_neg hdigit, if_neg hdigit, if_pos hstart]
  all_goals exact absurd h (by decide)

/-- A part of a name is neither a blank nor the start of a comment. -/
theorem kinds_namePart {c : Char} (cs : List Char) (h : isNamePart c = true) :
    kinds (c :: cs) = (scanToken c cs).1 :: kinds (scanToken c cs).2 := by
  refine kinds_cons cs ?_ ?_
  · by_contra hblank
    simp only [isBlank, Bool.not_eq_false, Bool.or_eq_true, beq_iff_eq] at hblank
    rcases hblank with ((rfl | rfl) | rfl) | rfl
    all_goals exact absurd h (by decide)
  · rintro rfl
    exact absurd h (by decide)

/-- The start of a name and parts of a name, but not two underscores in front. -/
structure Word (w : List Char) : Prop where
  start : ∃ c cs, w = c :: cs ∧ isNameStart c = true
  parts : ∀ c ∈ w, isNamePart c = true
  notPrivate : ¬ ['_', '_'] <+: w

/-- A word is cut off where no further character of a name stands, and becomes what it means. -/
theorem kinds_word {w rest : List Char} (hw : Word w) (hr : Stops isNamePart rest) :
    kinds (w ++ rest) = .ofWord (String.ofList w) :: kinds rest := by
  obtain ⟨c, cs, rfl, hc⟩ := hw.start
  have hpart : isNamePart c = true := isNamePart_of_isNameStart hc
  have hcs : ∀ d ∈ cs, isNamePart d = true := fun d hd => hw.parts d (List.mem_cons_of_mem c hd)
  -- the second underscore could only come from the word itself
  have hpublic : ¬ (decide (c = '_') && decide ((cs ++ rest).head? = some '_')) = true := by
    rw [Bool.and_eq_true, decide_eq_true_eq, decide_eq_true_eq]
    rintro ⟨rfl, hhead⟩
    cases cs with
    | nil => exact absurd (hr '_' hhead) (by decide)
    | cons d ds =>
      obtain rfl : d = '_' := Option.some.inj hhead
      exact hw.notPrivate ⟨ds, rfl⟩
  rw [List.cons_append, kinds_namePart _ hpart, scanToken_namePart _ hpart,
    if_neg (not_isDigit_of_isNameStart hc), scanName, takeWhile_append_stop hcs hr,
    dropWhile_append_stop hcs hr]
  dsimp only
  rw [if_neg hpublic]

/-! ## Numbers -/

/-- A text that goes on neither with a name nor with a point, so that a number ends there. -/
structure Delimited (cs : List Char) : Prop where
  stops : Stops isNamePart cs
  noPoint : ∀ c ∈ cs.head?, c ≠ '.'

/-- The kind of a numeral: a whole number if it has only digits and fits 64 bits, else a
float. -/
def numeralKind (n : Numeral) : TokenKind :=
  if n.places = none ∧ n.exponent = none ∧ Number.digitsValue n.whole < 2 ^ 63 then
    .int (Number.digitsValue n.whole)
  else .float (Number.ofDecimal false n.digits n.power)

theorem Delimited.stopsDigits {cs : List Char} (h : Delimited cs) : Stops Char.isDigit cs := by
  intro c hc
  by_contra hdigit
  have hpart := isNamePart_of_isDigit (Bool.not_eq_false _ ▸ hdigit)
  rw [h.stops c hc] at hpart
  cases hpart

/-- The places of a numeral are cut off as they are written. -/
theorem scanPlaces_text (n : Numeral) {rest : List Char} (hr : Delimited rest) :
    scanPlaces (n.placesText ++ (n.exponentText ++ rest))
      = (n.placesText, n.exponentText ++ rest) := by
  unfold Numeral.placesText
  cases hp : n.places with
  | some ps =>
    have hspan := Number.spanDigits_append (n.places_digits ps hp)
      (n.exponentText_stops hr.stopsDigits)
    simp only [List.cons_append, scanPlaces, hspan]
  | none =>
    -- neither an exponent nor what follows the numeral starts with a point
    have hpoint : ∀ cs, n.exponentText ++ rest ≠ '.' :: cs := by
      intro cs heq
      unfold Numeral.exponentText at heq
      split at heq
      · cases heq
      · cases heq
      · exact hr.noPoint '.' (by rw [← List.nil_append rest, heq]; rfl) rfl
    unfold scanPlaces
    split
    · rename_i cs heq
      exact absurd heq (hpoint cs)
    · rfl

/-- A mark of the exponent with a digit behind it is cut off with all digits. -/
theorem scanExponent_digit {mark d : Char} {more : List Char} (hmark : mark = 'e' ∨ mark = 'E')
    (hd : d.isDigit = true) :
    scanExponent (mark :: d :: more)
      = (mark :: (Number.spanDigits (d :: more)).1, (Number.spanDigits (d :: more)).2) := by
  have hsign : ¬ (decide (d = '+') || decide (d = '-')) = true := by
    rw [Bool.or_eq_true, decide_eq_true_eq, decide_eq_true_eq]
    rintro (rfl | rfl)
    · exact absurd hd (by decide)
    · exact absurd hd (by decide)
  cases more with
  | nil => simp [scanExponent, hmark, hd, Number.spanDigits, List.span_eq_takeWhile_dropWhile]
  | cons f more => simp [scanExponent, hmark, hd, hsign]

/-- The exponent of a numeral is cut off as it is written, with or without its sign. -/
theorem scanExponent_text (n : Numeral) {rest : List Char} (hr : Delimited rest) :
    scanExponent (n.exponentText ++ rest) = (n.exponentText, rest) := by
  unfold Numeral.exponentText
  rcases he : n.exponent with _ | ⟨negative, ds⟩
  · cases rest with
    | nil => rfl
    | cons c cs =>
      have hc : isNamePart c = false := hr.stops c rfl
      -- an `e` after the numeral would continue it as part of a name
      have hmark : ¬ (decide (c = 'e') || decide (c = 'E')) = true := by
        rw [Bool.or_eq_true, decide_eq_true_eq, decide_eq_true_eq]
        rintro (rfl | rfl)
        · exact absurd hc (by decide)
        · exact absurd hc (by decide)
      show scanExponent (c :: cs) = ([], c :: cs)
      rw [scanExponent.eq_def]
      exact if_neg hmark
  · have hdigits := n.exponent_digits _ he
    obtain ⟨d, ds, rfl⟩ := List.exists_cons_of_ne_nil (n.exponent_ne_nil _ he)
    have hd : d.isDigit = true := hdigits d List.mem_cons_self
    have hspan := Number.spanDigits_append hdigits hr.stopsDigits
    rw [List.cons_append] at hspan
    cases negative with
    | true => simp [scanExponent, hd, hspan]
    | false => rw [List.cons_append, List.cons_append, scanExponent_digit (.inl rfl) hd, hspan]

/-- A numeral is read to its end as one token. -/
theorem scanNumber_text (n : Numeral) {rest : List Char} (hr : Delimited rest) :
    scanNumber (n.text ++ rest) = (numeralKind n, rest) := by
  have hspan : Number.spanDigits (n.text ++ rest)
      = (n.whole, n.placesText ++ (n.exponentText ++ rest)) := by
    rw [Numeral.text, List.append_assoc, List.append_assoc]
    exact Number.spanDigits_append n.whole_digits (n.tail_stops hr.stopsDigits)
  have hend : rest.head?.any isNameStart = false :=
    Bool.eq_false_iff.mpr (Number.stops_iff.mp (stops_nameStart hr.stops))
  have htext : n.whole ++ n.placesText ++ n.exponentText = n.text := rfl
  simp only [scanNumber, hspan, scanPlaces_text n hr, scanExponent_text n hr, hend, htext,
    Number.readFloat?_text, numeralKind, Bool.and_eq_true, List.isEmpty_iff,
    decide_eq_true_eq, Numeral.placesText_eq_nil_iff, Numeral.exponentText_eq_nil_iff, and_assoc,
    Bool.false_eq_true, if_false, Nat.one_shiftLeft]
  split
  · rfl
  · rfl

/-- A numeral is one token, where something delimits it. -/
theorem kinds_numeral (n : Numeral) {rest : List Char} (hr : Delimited rest) :
    kinds (n.text ++ rest) = numeralKind n :: kinds rest := by
  obtain ⟨c, cs, htext, hc⟩ := n.text_eq_cons
  have hpart := isNamePart_of_isDigit hc
  rw [htext, List.cons_append, kinds_namePart _ hpart, scanToken_namePart _ hpart, if_pos hc,
    ← List.cons_append, ← htext, scanNumber_text n hr]

/-- A whole number that is not negative and fits 64 bits is one token. -/
theorem kinds_int {i : Int} (hi : 0 ≤ i) (hfits : i < 2 ^ 63) {rest : List Char}
    (hr : Delimited rest) : kinds ((toString i).toList ++ rest) = .int i :: kinds rest := by
  have htext : (toString i).toList = (Numeral.natural i.natAbs).text := by
    rw [Number.toList_toString_int, if_neg (by omega)]
    simp [Numeral.text, Numeral.placesText, Numeral.exponentText, Numeral.natural]
  have hkind : numeralKind (Numeral.natural i.natAbs) = .int i := by
    have hvalue : Number.digitsValue (Numeral.natural i.natAbs).whole = i.natAbs :=
      Number.digitsValue_toDigits _
    have habs : (i.natAbs : Int) = i := Int.natAbs_of_nonneg hi
    rw [numeralKind, hvalue, habs, if_pos ⟨rfl, rfl, by omega⟩]
  rw [htext, kinds_numeral _ hr, hkind]

/-- A finite float that is not negative is the token of its report. -/
theorem kinds_float {x : Float} {m : Nat} {e : Int} (hx : Number.decode x = .finite false m e)
    {rest : List Char} (hr : Delimited rest) :
    kinds ((Number.report x).toList ++ rest) = .float x :: kinds rest := by
  have hread := Number.readFloat?_report hx
  rw [Number.report_eq_text hx] at hread ⊢
  rw [Number.readFloat?_text] at hread
  -- with a point or an exponent it is no whole number
  have hnot : ¬ ((Numeral.report m e).places = none ∧ (Numeral.report m e).exponent = none ∧
      Number.digitsValue (Numeral.report m e).whole < 2 ^ 63) := by
    rintro ⟨hplaces, hexponent, -⟩
    rcases Numeral.report_places_or_exponent m e with h | h
    · exact h hplaces
    · exact h hexponent
  rw [kinds_numeral _ hr, numeralKind, if_neg hnot, Option.some.inj hread]

/-! ## Strings -/

/-- What stands for a character inside quotes is read as that character. -/
theorem scanString_escapeChar (c : Char) (cs : List Char) :
    scanString '"' (escapeChar c ++ cs) = prepend c (scanString '"' cs) := by
  unfold escapeChar
  split
  -- a character that stands for itself is none of those that `scanString` looks for
  case h_6 hquote hslash hline htab hreturn =>
    show scanString '"' (c :: cs) = prepend c (scanString '"' cs)
    rw [scanString.eq_def]
    exact (if_neg hline).trans ((if_neg hquote).trans (if_neg hslash))
  all_goals simp [scanString, escaped?]

/-- An escaped text is read back up to the quote that ends it. -/
theorem scanString_escape (cs rest : List Char) :
    scanString '"' (cs.flatMap escapeChar ++ '"' :: rest) = (some cs, rest) := by
  induction cs with
  | nil =>
    show scanString '"' ('"' :: rest) = (some [], rest)
    rw [scanString.eq_def]
    rfl
  | cons c cs ih =>
    rw [List.flatMap_cons, List.append_assoc, scanString_escapeChar, ih]
    rfl

/-- A quoted text is one token, whatever characters it quotes. -/
theorem kinds_quoteText (s : String) (rest : List Char) :
    kinds ((quoteText s).toList ++ rest) = .string s :: kinds rest := by
  have htext : (quoteText s).toList ++ rest
      = '"' :: (s.toList.flatMap escapeChar ++ '"' :: rest) := by
    simp [quoteText]
  have hscan : scanToken '"' (s.toList.flatMap escapeChar ++ '"' :: rest) = (.string s, rest) := by
    have hstring := scanString_escape s.toList rest
    simp [scanToken, hstring]
  rw [htext, kinds_cons _ rfl (by decide), hscan]

/-! ## Signs -/

theorem kinds_space (cs : List Char) : kinds (' ' :: cs) = kinds cs :=
  kinds_blank cs rfl

theorem kinds_leftParen (cs : List Char) : kinds ('(' :: cs) = .leftParen :: kinds cs :=
  kinds_cons cs rfl (by decide)

theorem kinds_rightParen (cs : List Char) : kinds (')' :: cs) = .rightParen :: kinds cs :=
  kinds_cons cs rfl (by decide)

theorem kinds_leftBracket (cs : List Char) : kinds ('[' :: cs) = .leftBracket :: kinds cs :=
  kinds_cons cs rfl (by decide)

theorem kinds_rightBracket (cs : List Char) : kinds (']' :: cs) = .rightBracket :: kinds cs :=
  kinds_cons cs rfl (by decide)

theorem kinds_comma (cs : List Char) : kinds (',' :: cs) = .comma :: kinds cs :=
  kinds_cons cs rfl (by decide)

end RowSignals.Expr.Lexer
