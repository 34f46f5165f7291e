import RowSignals.Expr.Names
import RowSignals.Proofs.Expr.Grammar
import RowSignals.Proofs.Expr.Lexing

/-!
# Tokens and what follows them

A token ends where the text cannot continue it. So it stays the same token when the text after it
is exchanged for another one that cannot continue it either: one that starts alike, with the same
character or with a name in place of a name, or one that starts with a line end or is empty.

* `StartsAlike`, `AtLineEnd`, `EndsAlike`: texts that start alike, that start no later than a line
  end, and that continue no token which the other does not continue.
* `NumberParts`, `scanNumber_split`, `scanString_split`: numbers and strings with the text they
  take.
* `Lead`, `lead`: what each character starts.
* `TokenShape`: the texts of the tokens of each class.
* `scanToken_again`: every token has a shape, and is read again before any text that continues it
  no more than the one that follows it.
* `Touches`, `PointsTouch.follows`: nothing stands next to the points of a text.
-/

namespace RowSignals.Expr.Lexer

open Number (AllDigits Stops stops_iff spanDigits spanDigits_append takeWhile_append_stop
  dropWhile_append_stop)

/-! ## Texts that start alike -/

/-- The two texts start with the same character, or both with a name. -/
def StartsAlike (cs ds : List Char) : Prop :=
  cs.head? = ds.head? ∨ cs.head?.any isNameStart = true ∧ ds.head?.any isNameStart = true

section
variable {cs ds : List Char}

/-- Two texts that start alike still do with the same text in front. -/
theorem StartsAlike.append (used : List Char) (h : StartsAlike cs ds) :
    StartsAlike (used ++ cs) (used ++ ds) := by
  cases used with
  | nil => exact h
  | cons c used => exact .inl rfl

/-- The same character follows, unless it is the start of a name. -/
theorem StartsAlike.head_eq (h : StartsAlike cs ds) (hname : Stops isNameStart ds) :
    cs.head? = ds.head? := by
  rcases h with h | ⟨-, h⟩
  · exact h
  · obtain ⟨c, hc, hstart⟩ := (Option.any_eq_true _ _).mp h
    rw [hname c hc] at hstart
    cases hstart

end

/-- The text is empty or starts with a line end. -/
def AtLineEnd (cs : List Char) : Prop :=
  ∀ c ∈ cs.head?, c = '\n'

/-- The end of a line stops every class without line feeds. -/
theorem AtLineEnd.stops {p : Char → Bool} {cs : List Char} (h : AtLineEnd cs)
    (hline : p '\n' = false) : Stops p cs := by
  intro c hc
  rwa [h c hc]

/-- The classes of characters that continue tokens: no line end continues one, and two names either
both do or both do not. -/
structure Continues (p : Char → Bool) : Prop where
  line : p '\n' = false
  names : ∀ c d, isNameStart c = true → isNameStart d = true → p c = p d

/-- Where the text `rest` ends a token, the text `cs` ends it too. -/
def EndsAlike (cs rest : List Char) : Prop :=
  ∀ p, Continues p → Stops p rest → Stops p cs

/-- Of two texts that start alike one ends a token where the other does. -/
theorem StartsAlike.ends {cs rest : List Char} (h : StartsAlike cs rest) : EndsAlike cs rest := by
  intro p hp hstops
  rcases h with h | ⟨hcs, hrest⟩
  · rwa [Stops, h]
  · obtain ⟨c, hc, hstart⟩ := (Option.any_eq_true _ _).mp hcs
    obtain ⟨d, hd, hother⟩ := (Option.any_eq_true _ _).mp hrest
    intro e he
    cases hc.symm.trans he
    rw [hp.names c d hstart hother]
    exact hstops d hd

theorem AtLineEnd.ends {cs : List Char} (h : AtLineEnd cs) (rest : List Char) :
    EndsAlike cs rest :=
  fun _ hp _ => h.stops hp.line

theorem continues_digit : Continues Char.isDigit where
  line := rfl
  names c d hc hd := by
    rw [Bool.eq_false_iff.mpr (not_isDigit_of_isNameStart hc),
      Bool.eq_false_iff.mpr (not_isDigit_of_isNameStart hd)]

theorem continues_nameStart : Continues isNameStart where
  line := rfl
  names _ _ hc hd := hc.trans hd.symm

theorem continues_namePart : Continues isNamePart where
  line := rfl
  names _ _ hc hd :=
    (isNamePart_of_isNameStart hc).trans (isNamePart_of_isNameStart hd).symm

/-- A character that is neither a line end nor the start of a name continues a token alone. -/
theorem continues_char {c : Char} (hline : c ≠ '\n') (hname : isNameStart c = false) :
    Continues (c == ·) where
  line := beq_eq_false_iff_ne.mpr hline
  names d e hd he := by
    have hne {x : Char} (hx : isNameStart x = true) : (c == x) = false := by
      rw [beq_eq_false_iff_ne]
      rintro rfl
      cases hname.symm.trans hx
    rw [hne hd, hne he]

section
variable {cs rest : List Char}

theorem EndsAlike.append (used : List Char) (h : EndsAlike cs rest) :
    EndsAlike (used ++ cs) (used ++ rest) := by
  cases used with
  | nil => exact h
  | cons c used => exact fun _ _ hstops => hstops

theorem EndsAlike.stops_digit (h : EndsAlike cs rest) (hstops : Stops Char.isDigit rest) :
    Stops Char.isDigit cs :=
  h _ continues_digit hstops

theorem EndsAlike.stops_nameStart (h : EndsAlike cs rest) (hstops : Stops isNameStart rest) :
    Stops isNameStart cs :=
  h _ continues_nameStart hstops

theorem EndsAlike.stops_namePart (h : EndsAlike cs rest) (hstops : Stops isNamePart rest) :
    Stops isNamePart cs :=
  h _ continues_namePart hstops

end

/-- What is left when a run was dropped does not go on with it. -/
theorem stops_dropWhile (p : Char → Bool) (cs : List Char) : Stops p (cs.dropWhile p) := by
  intro c hc
  have h := List.head?_dropWhile_not p cs
  rw [hc] at h
  simpa using h

/-! ## Numbers -/

/-- The marks of exponents. -/
def IsMark (c : Char) : Prop :=
  c = 'e' ∨ c = 'E'

theorem IsMark.isNameStart {c : Char} (h : IsMark c) : isNameStart c = true := by
  rcases h with rfl | rfl
  · rfl
  · rfl

/-- The text of a number: digits and points, and perhaps an exponent. -/
inductive NumberText : List Char → Prop
  | plain {plain : List Char} : (∀ c ∈ plain, c.isDigit = true ∨ c = '.') → NumberText plain
  | exponent {plain tail : List Char} {mark : Char} :
    (∀ c ∈ plain, c.isDigit = true ∨ c = '.') → IsMark mark →
    (∀ c ∈ tail, c.isDigit = true ∨ c = '+' ∨ c = '-') →
    NumberText (plain ++ mark :: tail)

/-- Digits are cut off up to something that stops them. -/
theorem spanDigits_split (cs : List Char) : ∃ digits rest, cs = digits ++ rest ∧
    AllDigits digits ∧ Stops Char.isDigit rest ∧ spanDigits cs = (digits, rest) := by
  refine ⟨cs.takeWhile Char.isDigit, cs.dropWhile Char.isDigit, ?_, ?_, ?_, ?_⟩
  · exact List.takeWhile_append_dropWhile.symm
  · exact fun c hc => List.mem_takeWhile_imp hc
  · exact stops_dropWhile Char.isDigit cs
  · exact List.span_eq_takeWhile_dropWhile ..

theorem scanPlaces_of_ne {cs : List Char} (h : ∀ c ∈ cs.head?, c ≠ '.') :
    scanPlaces cs = ([], cs) := by
  unfold scanPlaces
  split
  · exact absurd rfl (h '.' rfl)
  · rfl

/-- The places are a point and digits, and are cut off again before every text that ends them
alike. -/
theorem scanPlaces_split (cs : List Char) : ∃ places rest, cs = places ++ rest ∧
    (∀ c ∈ places, c.isDigit = true ∨ c = '.') ∧ scanPlaces cs = (places, rest) ∧
    ∀ ds, EndsAlike ds rest → scanPlaces (places ++ ds) = (places, ds) := by
  by_cases hpoint : ∃ more, cs = '.' :: more
  · obtain ⟨more, rfl⟩ := hpoint
    obtain ⟨digits, rest, rfl, hdigits, hstops, hspan⟩ := spanDigits_split more
    refine ⟨'.' :: digits, rest, rfl, ?_, ?_, ?_⟩
    · intro c hc
      rcases List.mem_cons.mp hc with rfl | hc
      · exact .inr rfl
      · exact .inl (hdigits c hc)
    · simp only [scanPlaces, hspan]
    · intro ds hds
      simp only [List.cons_append, scanPlaces, spanDigits_append hdigits (hds.stops_digit hstops)]
  · have hne : ∀ c ∈ cs.head?, c ≠ '.' := by
      rintro c hc rfl
      cases cs with
      | nil => cases hc
      | cons d more =>
        cases hc
        exact hpoint ⟨more, rfl⟩
    refine ⟨[], cs, rfl, List.forall_mem_nil _, scanPlaces_of_ne hne, ?_⟩
    intro ds hds
    have hstops : Stops ('.' == ·) cs :=
      fun c hc => beq_eq_false_iff_ne.mpr (hne c hc).symm
    -- A text that ends the number alike starts with no point either.
    refine scanPlaces_of_ne ?_
    intro c hc
    have hends := hds _ (continues_char (by decide) rfl) hstops c hc
    exact (beq_eq_false_iff_ne.mp hends).symm

theorem scanExponent_of_stops {cs : List Char} (h : Stops isNameStart cs) :
    scanExponent cs = ([], cs) := by
  cases cs with
  | nil => rfl
  | cons c cs =>
    have hmark : ¬ (decide (c = 'e') || decide (c = 'E')) = true := by
      rw [Bool.or_eq_true, decide_eq_true_eq, decide_eq_true_eq]
      intro hc
      have hstart := IsMark.isNameStart hc
      rw [h c rfl] at hstart
      cases hstart
    rw [scanExponent.eq_def]
    exact if_neg hmark

theorem spanDigits_cons_split {d : Char} (more : List Char) (hd : d.isDigit = true) :
    ∃ digits rest, more = digits ++ rest ∧ AllDigits (d :: digits) ∧ Stops Char.isDigit rest ∧
      spanDigits (d :: more) = (d :: digits, rest) := by
  obtain ⟨digits, rest, hsplit, hdigits, hstops, hspan⟩ := spanDigits_split (d :: more)
  cases digits with
  | nil =>
    -- the digit would be left
    obtain rfl : rest = d :: more := hsplit.symm
    cases (hstops d rfl).symm.trans hd
  | cons c digits =>
    obtain ⟨rfl, rfl⟩ := List.cons.inj hsplit
    exact ⟨digits, rest, rfl, hdigits, hstops, hspan⟩

/-- A mark with a sign and a digit is cut off with all digits. -/
theorem scanExponent_sign {mark sign d : Char} {more : List Char} (hmark : IsMark mark)
    (hsign : sign = '+' ∨ sign = '-') (hd : d.isDigit = true) :
    scanExponent (mark :: sign :: d :: more)
      = (mark :: sign :: (spanDigits (d :: more)).1, (spanDigits (d :: more)).2) := by
  rcases hmark with rfl | rfl
  · simp [scanExponent, hsign, hd]
  · simp [scanExponent, hsign, hd]

/-- An exponent is a mark, perhaps a sign, and digits. -/
theorem scanExponent_cases (cs : List Char) : scanExponent cs = ([], cs) ∨
    (∃ mark d more, IsMark mark ∧ d.isDigit = true ∧ cs = mark :: d :: more) ∨
    ∃ mark sign d more, IsMark mark ∧ (sign = '+' ∨ sign = '-') ∧ d.isDigit = true ∧
      cs = mark :: sign :: d :: more := by
  fun_cases scanExponent cs with
  | case1 => exact .inl rfl
  | case2 mark hmark sign d more hsign =>
    simp only [Bool.and_eq_true, Bool.or_eq_true, decide_eq_true_eq] at hmark hsign
    exact .inr (.inr ⟨mark, sign, d, more, hmark, hsign.1, hsign.2, rfl⟩)
  | case3 mark hmark d next more _ hd =>
    simp only [Bool.or_eq_true, decide_eq_true_eq] at hmark
    exact .inr (.inl ⟨mark, d, next :: more, hmark, hd, rfl⟩)
  | case4 => exact .inl rfl
  | case5 mark hmark d hd =>
    simp only [Bool.or_eq_true, decide_eq_true_eq] at hmark
    exact .inr (.inl ⟨mark, d, [], hmark, hd, rfl⟩)
  | case6 => exact .inl rfl
  | case7 => exact .inl rfl
  | case8 => exact .inl rfl

/-- A text ends the exponent before it: no digit goes on with it, or none starts where there is
none. -/
structure EndsExponent (exponent cs : List Char) : Prop where
  none : exponent = [] → scanExponent cs = ([], cs)
  digits : exponent ≠ [] → Stops Char.isDigit cs

/-- A text that ends tokens alike ends the exponent, too, where no name follows. -/
theorem EndsExponent.alike {exponent cs rest : List Char} (h : EndsExponent exponent rest)
    (hname : Stops isNameStart rest) (hcs : EndsAlike cs rest) : EndsExponent exponent cs where
  none _ := scanExponent_of_stops (hcs.stops_nameStart hname)
  digits hne := hcs.stops_digit (h.digits hne)

/-- The exponent is a mark with signs and digits, or nothing, and is cut off again before every
text that ends it. -/
theorem scanExponent_split {cs exponent rest : List Char}
    (h : scanExponent cs = (exponent, rest)) : cs = exponent ++ rest ∧
    (exponent = [] ∨ ∃ mark tail, exponent = mark :: tail ∧ IsMark mark ∧
      ∀ c ∈ tail, c.isDigit = true ∨ c = '+' ∨ c = '-') ∧
    EndsExponent exponent rest ∧
    ∀ ds, EndsExponent exponent ds → scanExponent (exponent ++ ds) = (exponent, ds) := by
  -- No exponent, a mark and digits, or a mark, a sign and digits.
  rcases scanExponent_cases cs with hnone | ⟨mark, d, more, hmark, hd, rfl⟩ |
    ⟨mark, sign, d, more, hmark, hsign, hd, rfl⟩
  · cases hnone.symm.trans h
    exact ⟨rfl, .inl rfl, ⟨fun _ => hnone, absurd rfl⟩, fun ds hds => hds.none rfl⟩
  · obtain ⟨digits, rest, rfl, hdigits, hstops, hspan⟩ := spanDigits_cons_split more hd
    rw [scanExponent_digit hmark hd, hspan] at h
    cases h
    have hne : mark :: d :: digits ≠ [] := List.cons_ne_nil _ _
    refine ⟨rfl, .inr ⟨mark, d :: digits, rfl, hmark, fun c hc => .inl (hdigits c hc)⟩,
      ⟨fun h => absurd h hne, fun _ => hstops⟩, ?_⟩
    intro ds hds
    have hspan := spanDigits_append hdigits (hds.digits hne)
    rw [List.cons_append] at hspan
    rw [List.cons_append, List.cons_append, scanExponent_digit hmark hd, hspan]
  · obtain ⟨digits, rest, rfl, hdigits, hstops, hspan⟩ := spanDigits_cons_split more hd
    rw [scanExponent_sign hmark hsign hd, hspan] at h
    cases h
    have hne : mark :: sign :: d :: digits ≠ [] := List.cons_ne_nil _ _
    refine ⟨rfl, .inr ⟨mark, sign :: d :: digits, rfl, hmark, ?_⟩,
      ⟨fun h => absurd h hne, fun _ => hstops⟩, ?_⟩
    · intro c hc
      rcases List.mem_cons.mp hc with rfl | hc
      · exact .inr hsign
      · exact .inl (hdigits c hc)
    · intro ds hds
      have hspan := spanDigits_append hdigits (hds.digits hne)
      rw [List.cons_append] at hspan
      rw [List.cons_append, List.cons_append, List.cons_append, scanExponent_sign hmark hsign hd,
        hspan]

/-- The parts of a number at the front of a text, and the rest of the text. -/
structure NumberParts (cs whole places exponent rest : List Char) : Prop where
  whole : spanDigits cs = (whole, places ++ (exponent ++ rest))
  places : scanPlaces (places ++ (exponent ++ rest)) = (places, exponent ++ rest)
  exponent : scanExponent (exponent ++ rest) = (exponent, rest)

/-- The parts of a number are read again before every text that ends them as well. -/
theorem exists_numberParts (cs : List Char) : ∃ whole places exponent rest,
    cs = whole ++ places ++ exponent ++ rest ∧ NumberParts cs whole places exponent rest ∧
    NumberText (whole ++ places ++ exponent) ∧ EndsExponent exponent rest ∧
    ∀ ds, EndsAlike ds rest → EndsExponent exponent ds →
      NumberParts (whole ++ places ++ exponent ++ ds) whole places exponent ds := by
  obtain ⟨whole, after, rfl, hwhole, hstops, hspan⟩ := spanDigits_split cs
  obtain ⟨places, others, rfl, hplaces, hscan, hlocal⟩ := scanPlaces_split after
  rcases hexponent : scanExponent others with ⟨exponent, rest⟩
  obtain ⟨rfl, hshape, hends, hagain⟩ := scanExponent_split hexponent
  refine ⟨whole, places, exponent, rest, by simp only [List.append_assoc],
    ⟨hspan, hscan, hexponent⟩, ?_, hends, ?_⟩
  · have hplain : ∀ c ∈ whole ++ places, c.isDigit = true ∨ c = '.' := by
      intro c hc
      rcases List.mem_append.mp hc with hc | hc
      · exact .inl (hwhole c hc)
      · exact hplaces c hc
    rcases hshape with rfl | ⟨mark, tail, rfl, hmark, htail⟩
    · rw [List.append_nil]
      exact .plain hplain
    · exact .exponent hplain hmark htail
  · intro ds hds hends
    have hafter := hds.append exponent
    have hdigits := (hafter.append places).stops_digit hstops
    simp only [List.append_assoc]
    exact ⟨spanDigits_append hwhole hdigits, hlocal _ hafter, hagain ds hends⟩

/-- The kind of a number, by the parts of its text. -/
def writtenKind (whole places exponent : List Char) : TokenKind :=
  if places.isEmpty && exponent.isEmpty && Number.digitsValue whole < 2 ^ 63 then
    .int (Number.digitsValue whole)
  else
    match Number.readFloat? (whole ++ places ++ exponent) with
    | some x => .float x
    | none => .invalid (.invalidNumber (String.ofList (whole ++ places ++ exponent)))

/-- Where no name follows its parts a number is of the kind that they write. -/
theorem scanNumber_eq {cs whole places exponent rest : List Char}
    (h : NumberParts cs whole places exponent rest) (hname : Stops isNameStart rest) :
    scanNumber cs = (writtenKind whole places exponent, rest) := by
  simp only [scanNumber, h.whole, h.places, h.exponent, if_neg (stops_iff.mp hname), writtenKind,
    Nat.one_shiftLeft]
  split
  · rfl
  · cases Number.readFloat? (whole ++ places ++ exponent) with
    | none => rfl
    | some x => rfl

/-- A number that runs into a name is invalid together with that name. -/
theorem scanNumber_name {cs whole places exponent rest : List Char}
    (h : NumberParts cs whole places exponent rest) (hname : rest.head?.any isNameStart = true) :
    scanNumber cs = (.invalid (.invalidNumber (String.ofList
      (whole ++ places ++ exponent ++ rest.takeWhile isNamePart))), rest.dropWhile isNamePart) := by
  simp only [scanNumber, h.whole, h.places, h.exponent, if_pos hname]

/-- Whether a token is a number, or an invalid one. -/
def IsNumber : TokenKind → Prop
  | .int _ | .float _ | .invalid _ => True
  | _ => False

theorem scanNumber_isNumber (cs : List Char) : IsNumber (scanNumber cs).1 := by
  simp only [scanNumber]
  split
  · trivial
  · split
    · trivial
    · split
      · trivial
      · trivial

/-- A number that is valid is not followed by a name, and its text is read to the same end
before whatever continues it no more. -/
theorem scanNumber_split {cs rest : List Char} {kind : TokenKind}
    (h : scanNumber cs = (kind, rest)) (hvalid : Admissible kind) :
    ∃ used, cs = used ++ rest ∧ NumberText used ∧ Stops isNameStart rest ∧
      ∀ ds, EndsAlike ds rest → scanNumber (used ++ ds) = (kind, ds) := by
  obtain ⟨whole, places, exponent, last, hsplit, hparts, htext, hends, hagain⟩ :=
    exists_numberParts cs
  by_cases hname : last.head?.any isNameStart = true
  · rw [scanNumber_name hparts hname] at h
    cases h
    cases hvalid
  · rw [← stops_iff] at hname
    cases (scanNumber_eq hparts hname).symm.trans h
    refine ⟨whole ++ places ++ exponent, hsplit, htext, hname, ?_⟩
    intro ds hds
    exact scanNumber_eq (hagain ds hds (hends.alike hname hds)) (hds.stops_nameStart hname)

/-! ## Strings -/

/-- The quotes around strings. -/
def IsQuote (c : Char) : Prop :=
  c = '"' ∨ c = '\x27'

instance (c : Char) : Decidable (IsQuote c) :=
  inferInstanceAs (Decidable (_ ∨ _))

theorem quote_iff {c : Char} : (decide (c = '"') || decide (c = '\x27')) = true ↔ IsQuote c := by
  rw [Bool.or_eq_true, decide_eq_true_eq, decide_eq_true_eq]
  rfl

theorem IsQuote.ne {quote : Char} (h : IsQuote quote) : quote ≠ '\n' ∧ quote ≠ '\\' := by
  rcases h with rfl | rfl <;> decide

theorem IsQuote.escaped {quote : Char} (h : IsQuote quote) : escaped? quote = some quote := by
  rcases h with rfl | rfl <;> rfl

/-- A closed text with one more character in front was closed before. -/
theorem prepend_eq_some {c : Char} {read : Option (List Char) × List Char} {text rest : List Char}
    (h : prepend c read = (some text, rest)) :
    ∃ more, read = (some more, rest) ∧ text = c :: more := by
  obtain ⟨found, after⟩ := read
  cases found with
  | none => cases h
  | some more =>
    cases h
    exact ⟨more, rfl, rfl⟩

/-- A character that is neither a quote, a backslash nor a line feed stays in the text. -/
theorem scanString_plain {quote c : Char} (cs : List Char) (hline : c ≠ '\n') (hquote : c ≠ quote)
    (hslash : c ≠ '\\') : scanString quote (c :: cs) = prepend c (scanString quote cs) := by
  rw [scanString.eq_def]
  exact (if_neg hline).trans ((if_neg hquote).trans (if_neg hslash))

theorem literalEnd_plain {quote c : Char} (cs : List Char) (hline : c ≠ '\n')
    (hquote : c ≠ quote) (hslash : c ≠ '\\') : Names.literalEnd quote (c :: cs)
      = (c :: (Names.literalEnd quote cs).1, (Names.literalEnd quote cs).2) := by
  rw [Names.literalEnd.eq_def]
  exact (if_neg hslash).trans ((if_neg hline).trans (if_neg hquote))

/-- The scanner of names passes over a backslash and the character after it, whatever it is. -/
theorem literalEnd_escape (quote e : Char) (cs : List Char) :
    Names.literalEnd quote ('\\' :: e :: cs)
      = ('\\' :: e :: (Names.literalEnd quote cs).1, (Names.literalEnd quote cs).2) := by
  rw [Names.literalEnd.eq_def]
  rfl

/-- Both scanners end at the quote that closes the text. -/
theorem scan_closing {quote : Char} (h : IsQuote quote) (cs : List Char) :
    scanString quote (quote :: cs) = (some [], cs) ∧
      Names.literalEnd quote (quote :: cs) = ([quote], cs) := by
  obtain ⟨hline, hslash⟩ := h.ne
  constructor
  · rw [scanString.eq_def]
    exact (if_neg hline).trans (if_pos rfl)
  · rw [Names.literalEnd.eq_def]
    exact (if_neg hslash).trans ((if_neg hline).trans (if_pos rfl))

theorem scanString_escaped {quote e x : Char} (h : IsQuote quote) (cs : List Char)
    (hescaped : escaped? e = some x) :
    scanString quote ('\\' :: e :: cs) = prepend x (scanString quote cs) := by
  rw [scanString.eq_def]
  simp [h.ne.2.symm, hescaped]

/-- After a backslash that escapes nothing the next character is looked at again. -/
theorem scanString_unescaped {quote e : Char} (h : IsQuote quote) (cs : List Char)
    (hescaped : escaped? e = none) :
    scanString quote ('\\' :: e :: cs) = prepend '\\' (scanString quote (e :: cs)) := by
  rw [scanString.eq_def]
  simp [h.ne.2.symm, hescaped]

theorem getLast?_cons_of_eq {c last : Char} {cs : List Char} (h : cs.getLast? = some last) :
    (c :: cs).getLast? = some last := by
  rw [List.getLast?_cons, h]
  rfl

/-- A string ends where its literal text ends, and both are found again before any text. -/
theorem scanString_split {quote : Char} (hquote : IsQuote quote) {cs text rest : List Char}
    (h : scanString quote cs = (some text, rest)) :
    ∃ used, cs = used ++ rest ∧ used.getLast? = some quote ∧
      ∀ ds, scanString quote (used ++ ds) = (some text, ds) ∧
        Names.literalEnd quote (used ++ ds) = (used, ds) := by
  fun_induction scanString quote cs generalizing text with
  | case1 => cases h
  | case2 => cases h
  | case3 more _ =>
    cases h
    exact ⟨[quote], rfl, rfl, scan_closing hquote⟩
  | case4 => cases h
  | case5 e more x hescaped _ _ ih =>
    obtain ⟨text, htext, rfl⟩ := prepend_eq_some h
    obtain ⟨used, rfl, hlast, hagain⟩ := ih htext
    refine ⟨'\\' :: e :: used, rfl, getLast?_cons_of_eq (getLast?_cons_of_eq hlast), ?_⟩
    intro ds
    obtain ⟨hstring, hliteral⟩ := hagain ds
    rw [List.cons_append, List.cons_append, scanString_escaped hquote _ hescaped, hstring,
      literalEnd_escape, hliteral]
    exact ⟨rfl, rfl⟩
  | case6 e more hescaped _ _ ih =>
    obtain ⟨text, htext, rfl⟩ := prepend_eq_some h
    obtain ⟨used, hsplit, hlast, hagain⟩ := ih htext
    -- the character after the backslash is no escape, so that it stands for itself
    have hline : e ≠ '\n' := by
      rintro rfl
      rw [scanString.eq_def] at htext
      cases htext
    have hne : e ≠ quote := by
      rintro rfl
      cases hescaped.symm.trans hquote.escaped
    have hslash : e ≠ '\\' := by
      rintro rfl
      cases hescaped
    cases used with
    | nil => cases hlast
    | cons d used =>
      obtain ⟨rfl, rfl⟩ := List.cons.inj hsplit
      refine ⟨'\\' :: e :: used, rfl, getLast?_cons_of_eq hlast, ?_⟩
      intro ds
      obtain ⟨hstring, hliteral⟩ := hagain ds
      rw [List.cons_append, literalEnd_plain _ hline hne hslash] at hliteral
      rw [List.cons_append] at hstring
      rw [List.cons_append, List.cons_append, scanString_unescaped hquote _ hescaped, hstring,
        literalEnd_escape]
      refine ⟨rfl, ?_⟩
      rw [Prod.mk.injEq, List.cons.injEq] at hliteral
      rw [hliteral.1.2, hliteral.2]
  | case7 c more hline hne hslash ih =>
    obtain ⟨text, htext, rfl⟩ := prepend_eq_some h
    obtain ⟨used, rfl, hlast, hagain⟩ := ih htext
    refine ⟨c :: used, rfl, getLast?_cons_of_eq hlast, ?_⟩
    intro ds
    obtain ⟨hstring, hliteral⟩ := hagain ds
    rw [List.cons_append, scanString_plain _ hline hne hslash, hstring,
      literalEnd_plain _ hline hne hslash, hliteral]
    exact ⟨rfl, rfl⟩

/-! ## Signs, blanks and pieces of names -/

/-- The characters of operators and brackets. -/
def signs : List Char :=
  ['(', ')', '[', ']', ',', '+', '-', '%', '*', '/', '=', '!', '<', '>']

/-- The blanks between tokens. -/
def blanks : List Char :=
  [' ', '\t', '\r', '\n']

theorem isBlank_iff_mem_blanks {c : Char} : isBlank c = true ↔ c ∈ blanks := by
  simp [isBlank, blanks, or_assoc]

/-- Whether a token is a piece of a dotted name. -/
def IsPiece : TokenKind → Prop
  | .identifier _ | .dot => True
  | _ => False

/-! ## How tokens start -/

/-- The kinds of the tokens of operators and brackets. One of them is invalid: `!` alone. -/
def IsSign : TokenKind → Prop
  | .plus | .minus | .star | .doubleStar | .slash | .doubleSlash | .percent
  | .eq | .ne | .lt | .le | .gt | .ge | .assign
  | .leftParen | .rightParen | .leftBracket | .rightBracket | .comma | .invalid _ => True
  | _ => False

theorem IsSign.not_isPiece {kind : TokenKind} (h : IsSign kind) : ¬ IsPiece kind := by
  intro hpiece
  cases kind with
  | identifier | dot => exact h
  | _ => exact hpiece

theorem scanToken_quote {c : Char} (hc : IsQuote c) (cs : List Char) : scanToken c cs =
    match scanString c cs with
    | (some text, rest) => (.string (String.ofList text), rest)
    | (none, rest) => (.invalid .unterminatedString, rest) := by
  rcases hc with rfl | rfl
  · rfl
  · rfl

theorem scanToken_digit {c : Char} (hc : c.isDigit = true) (cs : List Char) :
    scanToken c cs = scanNumber (c :: cs) := by
  rw [scanToken_namePart cs (isNamePart_of_isDigit hc), if_pos hc]

/-- A digit starts a number, and so does a point before a digit. -/
theorem scanToken_number {c : Char} {cs : List Char} (hc : c.isDigit = true ∨ c = '.')
    (hpoint : c = '.' → cs.head?.any Char.isDigit = true) :
    scanToken c cs = scanNumber (c :: cs) := by
  rcases hc with hc | rfl
  · exact scanToken_digit hc cs
  · exact if_pos (hpoint rfl)

theorem scanToken_point {cs : List Char} (h : Stops Char.isDigit cs) :
    scanToken '.' cs = (.dot, cs) :=
  if_neg (stops_iff.mp h)

theorem scanToken_point_cases (cs : List Char) :
    scanToken '.' cs = scanNumber ('.' :: cs) ∨ scanToken '.' cs = (.dot, cs) := by
  by_cases hdigit : cs.head?.any Char.isDigit = true
  · exact .inl (scanToken_number (.inr rfl) fun _ => hdigit)
  · exact .inr (scanToken_point (stops_iff.mpr hdigit))

theorem scanToken_nameStart {c : Char} (hc : isNameStart c = true) (cs : List Char) :
    scanToken c cs = scanName c cs := by
  rw [scanToken_namePart cs (isNamePart_of_isNameStart hc),
    if_neg (not_isDigit_of_isNameStart hc)]

/-- What no token starts with is a piece of its own. -/
theorem scanToken_unexpected {c : Char} (cs : List Char) (hpart : isNamePart c = false)
    (hsign : c ∉ signs) (hpoint : c ≠ '.') (hquote : ¬ IsQuote c) :
    scanToken c cs = (.invalid (.unexpectedCharacter c), cs) := by
  unfold scanToken
  split
  case h_9 => exact absurd rfl hpoint
  case h_16 =>
    have hdigit : ¬ c.isDigit = true := fun h => by
      cases hpart.symm.trans (isNamePart_of_isDigit h)
    have hname : ¬ isNameStart c = true := fun h => by
      cases hpart.symm.trans (isNamePart_of_isNameStart h)
    rw [if_neg (quote_iff.not.mpr hquote), if_neg hdigit, if_neg hname]
  all_goals exact absurd (by decide) hsign

/-- What a character starts, and what is scanned from there. -/
inductive Lead (c : Char) : Prop
  | sign {kind : TokenKind} : (∀ cs, scanToken c cs = (kind, cs)) → c ∈ signs → IsSign kind →
    Lead c
  | pair {d : Char} {longer shorter : TokenKind} :
    (∀ cs, scanToken c cs = either d longer shorter cs) → c ∈ signs → d ∈ signs →
    IsSign longer → IsSign shorter → Lead c
  | point : c = '.' → Lead c
  | quote : IsQuote c → Lead c
  | digit : c.isDigit = true → Lead c
  | word : isNameStart c = true → Lead c
  | unexpected : (∀ cs, scanToken c cs = (.invalid (.unexpectedCharacter c), cs)) → Lead c

theorem either_isSign {c : Char} {longer shorter : TokenKind} (hlonger : IsSign longer)
    (hshorter : IsSign shorter) (cs : List Char) : IsSign (either c longer shorter cs).1 := by
  unfold either
  split
  · split
    · exact hlonger
    · exact hshorter
  · exact hshorter

theorem lead_of_mem_signs {c : Char} (h : c ∈ signs) : Lead c := by
  simp only [signs, List.mem_cons, List.not_mem_nil, or_false] at h
  rcases h with rfl | rfl | rfl | rfl | rfl | rfl | rfl | rfl | rfl | rfl | rfl | rfl | rfl | rfl
  all_goals first
    | exact .sign (fun _ => rfl) (by decide) trivial
    | exact .pair (fun _ => rfl) (by decide) (by decide) trivial trivial

/-- Every character starts something. -/
theorem lead (c : Char) : Lead c := by
  by_cases hsign : c ∈ signs
  · exact lead_of_mem_signs hsign
  by_cases hpoint : c = '.'
  · exact .point hpoint
  by_cases hquote : IsQuote c
  · exact .quote hquote
  by_cases hdigit : c.isDigit = true
  · exact .digit hdigit
  by_cases hname : isNameStart c = true
  · exact .word hname
  have hpart : isNamePart c = false := by
    simpa [isNamePart, isNameStart, Char.isAlphanum, hdigit] using hname
  exact .unexpected fun cs => scanToken_unexpected cs hpart hsign hpoint hquote

/-! ## All tokens -/

/-- `TokenShape kind c used rest`: a token of a kind may have the text `c :: used` where the text
goes on with `rest`. -/
inductive TokenShape : TokenKind → Char → List Char → List Char → Prop
  | sign {kind : TokenKind} {c : Char} {used rest : List Char} : ¬ IsPiece kind →
    (∀ d ∈ c :: used, d ∈ signs) → TokenShape kind c used rest
  | point {rest : List Char} : TokenShape .dot '.' [] rest
  | number {kind : TokenKind} {c : Char} {used rest : List Char} : ¬ IsPiece kind →
    c.isDigit = true ∨ c = '.' → NumberText (c :: used) → Stops isNameStart rest →
    TokenShape kind c used rest
  | string {text : String} {c : Char} {used rest : List Char} : IsQuote c →
    used.getLast? = some c → (∀ ds, Names.literalEnd c (used ++ ds) = (used, ds)) →
    TokenShape (.string text) c used rest
  | word {c : Char} {used rest : List Char} : isNameStart c = true →
    (∀ d ∈ used, isNamePart d = true) → Stops isNamePart rest →
    TokenShape (.ofWord (String.ofList (c :: used))) c used rest

theorem ofWord_ne_dot (w : String) : TokenKind.ofWord w ≠ .dot := by
  unfold TokenKind.ofWord
  split
  case h_9 =>
    split
    · nofun
    · nofun
  all_goals nofun

/-- Only a word is an identifier, and the identifier is the word. -/
theorem eq_of_ofWord_eq_identifier {w name : String} (h : TokenKind.ofWord w = .identifier name) :
    w = name := by
  unfold TokenKind.ofWord at h
  split at h
  case h_9 =>
    split at h
    · cases h
    · cases h
      rfl
  all_goals cases h

theorem TokenShape.dot {c : Char} {used rest : List Char} (h : TokenShape .dot c used rest) :
    c = '.' ∧ used = [] := by
  generalize hkind : TokenKind.dot = kind at h
  cases h with
  | point => exact ⟨rfl, rfl⟩
  | sign hpiece _ =>
    subst hkind
    exact absurd trivial hpiece
  | number hpiece _ _ _ =>
    subst hkind
    exact absurd trivial hpiece
  | string => cases hkind
  | word => exact absurd hkind.symm (ofWord_ne_dot _)

/-- The text of an identifier is its name, and no character of a name follows. -/
theorem TokenShape.identifier {name : String} {c : Char} {used rest : List Char}
    (h : TokenShape (.identifier name) c used rest) :
    isNameStart c = true ∧ (∀ d ∈ used, isNamePart d = true) ∧ Stops isNamePart rest ∧
      String.ofList (c :: used) = name := by
  generalize hkind : TokenKind.identifier name = kind at h
  cases h with
  | word hc hparts hstops => exact ⟨hc, hparts, hstops, eq_of_ofWord_eq_identifier hkind.symm⟩
  | point => cases hkind
  | sign hpiece _ =>
    subst hkind
    exact absurd trivial hpiece
  | number hpiece _ _ _ =>
    subst hkind
    exact absurd trivial hpiece
  | string => cases hkind

/-- `Again c cs kind rest`: the token of `c :: cs` has a shape, and is found again before every
text that continues it no more than the one after it. -/
def Again (c : Char) (cs : List Char) (kind : TokenKind) (rest : List Char) : Prop :=
  ∃ used, cs = used ++ rest ∧ TokenShape kind c used rest ∧
    ∀ ds, EndsAlike ds rest → scanToken c (used ++ ds) = (kind, ds)

section
variable {c : Char} {cs rest : List Char} {kind : TokenKind}

/-- A sign that is a token of its own. -/
theorem again_sign (hc : c ∈ signs) (hkind : IsSign kind)
    (hscan : ∀ ds, scanToken c ds = (kind, ds)) : Again c cs kind cs := by
  refine ⟨[], rfl, .sign hkind.not_isPiece ?_, fun ds _ => hscan ds⟩
  intro d hd
  rwa [List.mem_singleton.mp hd]

/-- Where its second character does not follow the shorter sign is meant. -/
theorem either_of_stops {d : Char} {longer shorter : TokenKind} {ds : List Char}
    (h : Stops (d == ·) ds) : either d longer shorter ds = (shorter, ds) := by
  cases ds with
  | nil => rfl
  | cons e ds =>
    have hne : d ≠ e := beq_eq_false_iff_ne.mp (h e rfl)
    exact if_neg hne

theorem not_isNameStart_of_mem_signs {c : Char} (h : c ∈ signs) : isNameStart c = false := by
  have hall : signs.all (fun c => !isNameStart c) = true := by decide
  simpa using List.all_eq_true.mp hall c h

/-- A sign that goes on if the next character is the right one. -/
theorem again_either {d : Char} {longer shorter : TokenKind} (hc : c ∈ signs) (hd : d ∈ signs)
    (hlonger : IsSign longer) (hshorter : IsSign shorter)
    (hscan : ∀ ds, scanToken c ds = either d longer shorter ds)
    (h : either d longer shorter cs = (kind, rest)) : Again c cs kind rest := by
  -- The longer sign has its second character already, so anything may follow. After the shorter
  -- one that character may not follow.
  by_cases hnext : cs.head? = some d
  · obtain ⟨more, rfl⟩ := List.head?_eq_some_iff.mp hnext
    have hgoes (ds : List Char) : either d longer shorter (d :: ds) = (longer, ds) := if_pos rfl
    cases (hgoes more).symm.trans h
    refine ⟨[d], rfl, .sign hlonger.not_isPiece ?_, fun ds _ => (hscan _).trans (hgoes ds)⟩
    intro e he
    rcases List.mem_pair.mp he with rfl | rfl
    · exact hc
    · exact hd
  · have hstops : Stops (d == ·) cs := by
      intro e he
      rw [beq_eq_false_iff_ne]
      rintro rfl
      exact hnext he
    cases (either_of_stops hstops).symm.trans h
    refine ⟨[], rfl, .sign hshorter.not_isPiece ?_, fun ds hds => ?_⟩
    · intro e he
      rwa [List.mem_singleton.mp he]
    · have hline : d ≠ '\n' := by
        rintro rfl
        exact absurd hd (by decide)
      have hcontinues := continues_char hline (not_isNameStart_of_mem_signs hd)
      exact (hscan _).trans (either_of_stops (hds _ hcontinues hstops))

/-- After a point a number takes the digits. -/
theorem scanNumber_places_length_le {d : Char} (hd : d.isDigit = true) (more : List Char) :
    (scanNumber ('.' :: d :: more)).2.length ≤ more.length := by
  have hspan : (spanDigits (d :: more)).2 = (spanDigits more).2 := by
    simp [spanDigits, List.span_eq_takeWhile_dropWhile, hd]
  calc (scanNumber ('.' :: d :: more)).2.length ≤ (spanDigits (d :: more)).2.length :=
        scanNumber_length_le _
    _ ≤ more.length := by
      rw [hspan]
      exact spanDigits_length_le more

/-- A number takes its first character, and the digit after a point, so that its text starts a
number whatever follows. -/
theorem scanNumber_takes (hc : c.isDigit = true ∨ c = '.')
    (hpoint : c = '.' → cs.head?.any Char.isDigit = true)
    (h : scanNumber (c :: cs) = (kind, rest)) {used : List Char} (hsplit : c :: cs = used ++ rest) :
    ∃ more, used = c :: more ∧ ∀ ds, scanToken c (more ++ ds) = scanNumber (used ++ ds) := by
  cases used with
  | nil =>
    have hlength : (scanNumber (c :: cs)).2.length ≤ cs.length := by
      rcases hc with hc | rfl
      · exact scanNumber_digit_length_le cs hc
      · exact scanNumber_point_length_le cs
    rw [h, ← show c :: cs = rest from hsplit] at hlength
    exact absurd hlength (Nat.not_succ_le_self _)
  | cons d used =>
    obtain ⟨rfl, rfl⟩ := List.cons.inj hsplit
    refine ⟨used, rfl, fun ds => scanToken_number hc ?_⟩
    rintro rfl
    cases used with
    | cons e used => exact hpoint rfl
    | nil =>
      obtain ⟨e, he, hdigit⟩ := (Option.any_eq_true _ _).mp (hpoint rfl)
      obtain ⟨more, hmore⟩ := List.head?_eq_some_iff.mp he
      obtain rfl : rest = e :: more := hmore
      have hlength := scanNumber_places_length_le hdigit more
      rw [show scanNumber ('.' :: e :: more) = (kind, e :: more) from h] at hlength
      exact absurd hlength (Nat.not_succ_le_self _)

/-- A number is found again before every text that ends it alike. -/
theorem again_number (hc : c.isDigit = true ∨ c = '.')
    (hpoint : c = '.' → cs.head?.any Char.isDigit = true)
    (h : scanToken c cs = (kind, rest)) (hkind : Admissible kind) : Again c cs kind rest := by
  rw [scanToken_number hc hpoint] at h
  have hpiece : ¬ IsPiece kind := by
    have hnumber := scanNumber_isNumber (c :: cs)
    rw [h] at hnumber
    intro hpiece
    cases kind <;> first | exact hpiece | exact hnumber
  obtain ⟨used, hsplit, htext, hstops, hagain⟩ := scanNumber_split h hkind
  obtain ⟨used, rfl, htoken⟩ := scanNumber_takes hc hpoint h hsplit
  refine ⟨used, (List.cons.inj hsplit).2, .number hpiece hc htext hstops, ?_⟩
  intro ds hds
  rw [htoken, hagain ds hds]

/-- A point starts a number before a digit, and is a token of its own otherwise. -/
theorem again_point (h : scanToken '.' cs = (kind, rest)) (hkind : Admissible kind) :
    Again '.' cs kind rest := by
  by_cases hdigit : cs.head?.any Char.isDigit = true
  · exact again_number (.inr rfl) (fun _ => hdigit) h hkind
  · rw [← stops_iff] at hdigit
    cases (scanToken_point hdigit).symm.trans h
    exact ⟨[], rfl, .point, fun ds hds => scanToken_point (hds.stops_digit hdigit)⟩

theorem again_string (hc : IsQuote c) (h : scanToken c cs = (kind, rest))
    (hkind : Admissible kind) : Again c cs kind rest := by
  rw [scanToken_quote hc] at h
  split at h
  · rename_i text after hscan
    cases h
    obtain ⟨used, rfl, hlast, hagain⟩ := scanString_split hc hscan
    refine ⟨used, rfl, .string hc hlast fun ds => (hagain ds).2, ?_⟩
    intro ds _
    rw [scanToken_quote hc, (hagain ds).1]
  · cases h
    cases hkind

/-- A second underscore belongs to the word, so that it is there before every text or before
none. -/
theorem head?_eq_underscore_iff {word ds : List Char} (h : Stops isNamePart ds) :
    (word ++ ds).head? = some '_' ↔ word.head? = some '_' := by
  cases word with
  | cons d word => exact Iff.rfl
  | nil =>
    constructor
    · intro hhead
      exact absurd (h '_' hhead) (by decide)
    · intro hhead
      cases hhead

/-- A name is found again before every text that does not continue it. -/
theorem scanName_again (c : Char) {cs ds : List Char} (h : Stops isNamePart ds) :
    scanName c (cs.takeWhile isNamePart ++ ds) = ((scanName c cs).1, ds) := by
  have hparts : ∀ d ∈ cs.takeWhile isNamePart, isNamePart d = true :=
    fun d hd => List.mem_takeWhile_imp hd
  have hsecond : (cs.takeWhile isNamePart ++ ds).head? = some '_' ↔ cs.head? = some '_' := by
    rw [head?_eq_underscore_iff h, ← head?_eq_underscore_iff (stops_dropWhile isNamePart cs),
      List.takeWhile_append_dropWhile]
  simp only [scanName, takeWhile_append_stop hparts h, dropWhile_append_stop hparts h, hsecond]

theorem again_word (hc : isNameStart c = true) (h : scanToken c cs = (kind, rest))
    (hkind : Admissible kind) : Again c cs kind rest := by
  rw [scanToken_nameStart hc] at h
  have hpublic : ¬ (decide (c = '_') && decide (cs.head? = some '_')) = true := by
    intro hprivate
    rw [scanName, if_pos hprivate] at h
    cases h
    cases hkind
  have hagain (ds : List Char) (hds : Stops isNamePart ds) :
      scanToken c (cs.takeWhile isNamePart ++ ds) = (kind, ds) := by
    rw [scanToken_nameStart hc, scanName_again c hds, h]
  rw [scanName, if_neg hpublic] at h
  cases h
  have hstops := stops_dropWhile isNamePart cs
  exact ⟨cs.takeWhile isNamePart, List.takeWhile_append_dropWhile.symm,
    .word hc (fun d hd => List.mem_takeWhile_imp hd) hstops,
    fun ds hds => hagain ds (hds.stops_namePart hstops)⟩

/-- Every token has a shape, and is found again before every text that continues it no more than
the one after it. -/
theorem scanToken_again (h : scanToken c cs = (kind, rest)) (hkind : Admissible kind) :
    Again c cs kind rest := by
  cases lead c with
  | sign hscan hc hsign =>
    cases (hscan cs).symm.trans h
    exact again_sign hc hsign hscan
  | pair hscan hc hd hlonger hshorter =>
    exact again_either hc hd hlonger hshorter hscan ((hscan cs).symm.trans h)
  | point hc =>
    subst hc
    exact again_point h hkind
  | quote hc => exact again_string hc h hkind
  | digit hc =>
    refine again_number (.inl hc) ?_ h hkind
    rintro rfl
    cases hc
  | word hc => exact again_word hc h hkind
  | unexpected hscan =>
    cases (hscan cs).symm.trans h
    cases hkind

end

/-! ## Characters of no token -/

/-- The characters of names are ASCII characters, none of which comes before the digits. -/
theorem toNat_of_isNamePart {c : Char} (h : isNamePart c = true) :
    48 ≤ c.toNat ∧ c.toNat < 128 := by
  simp only [isNamePart, Char.isAlphanum, Char.isAlpha, Char.isUpper, Char.isLower, Char.isDigit,
    Bool.or_eq_true, Bool.and_eq_true, decide_eq_true_eq, beq_iff_eq, ge_iff_le,
    UInt32.le_iff_toNat_le] at h
  have hval : c.toNat = c.val.toNat := rfl
  rcases h with ((h | h) | h) | rfl
  · have hA : 65 ≤ 'A'.val.toNat := Nat.le_refl _
    have hZ : 'Z'.val.toNat ≤ 90 := Nat.le_refl _
    omega
  · have ha : 97 ≤ 'a'.val.toNat := Nat.le_refl _
    have hz : 'z'.val.toNat ≤ 122 := Nat.le_refl _
    omega
  · have h0 : 48 ≤ '0'.val.toNat := Nat.le_refl _
    have h9 : '9'.val.toNat ≤ 57 := Nat.le_refl _
    omega
  · decide

theorem toNat_of_isBlank {c : Char} (h : isBlank c = true) : c.toNat ≤ 32 := by
  have hall : blanks.all (·.toNat ≤ 32) = true := by decide
  simpa using List.all_eq_true.mp hall c (isBlank_iff_mem_blanks.mp h)

/-- White space that is no blank between tokens is out of the range of printed signs. -/
theorem toNat_of_white {c : Char} (hwhite : Text.isBlank c = true) (hblank : isBlank c = false) :
    c.toNat < 32 ∨ 128 ≤ c.toNat := by
  have hspace : c.toNat ≠ 32 := by
    intro h
    obtain rfl : c = ' ' := Char.toNat_inj.mp h
    cases hblank
  simp only [Text.isBlank, Bool.or_eq_true, Bool.and_eq_true, decide_eq_true_eq,
    beq_iff_eq] at hwhite
  omega

/-! ## Texts with a first token -/

/-- What is left when blanks and comments are skipped starts with neither. -/
theorem skipBlanksFrom_cons {inComment : Bool} {cs rest : List Char} {c : Char}
    (h : skipBlanksFrom inComment cs = c :: rest) : isBlank c = false ∧ c ≠ '#' := by
  fun_induction skipBlanksFrom inComment cs with
  | case1 => cases h
  | case2 _ ih => exact ih h
  | case3 _ _ _ ih => exact ih h
  | case4 _ _ _ _ _ ih => exact ih h
  | case5 _ _ _ _ ih => exact ih h
  | case6 _ d _ _ hblank hcomment =>
    cases h
    exact ⟨Bool.eq_false_iff.mpr hblank, hcomment⟩

theorem skipBlanks_blank {c : Char} (h : isBlank c = true) (cs : List Char) :
    skipBlanks (c :: cs) = skipBlanks cs := by
  simp [skipBlanks, skipBlanksFrom, h]

theorem skipBlanks_comment {comment : List Char} (h : ∀ c ∈ comment, c ≠ '\n')
    {rest : List Char} (hrest : AtLineEnd rest) :
    skipBlanks ('#' :: (comment ++ rest)) = skipBlanks rest := by
  have hcomment : skipBlanksFrom true (comment ++ rest) = skipBlanksFrom true rest := by
    induction comment with
    | nil => rfl
    | cons c comment ih =>
      have hc : c ≠ '\n' := h c List.mem_cons_self
      rw [List.cons_append, skipBlanksFrom, if_pos rfl, if_neg hc]
      exact ih fun d hd => h d (List.mem_cons_of_mem c hd)
  have hopen : skipBlanks ('#' :: (comment ++ rest)) = skipBlanksFrom true (comment ++ rest) := rfl
  rw [hopen, hcomment]
  cases rest with
  | nil => rfl
  | cons c rest =>
    obtain rfl := hrest c rfl
    rfl

/-- A comment ends before a line end or at the end of the text. -/
theorem comment_split (rest : List Char) :
    (∀ c ∈ rest.takeWhile (· != '\n'), c ≠ '\n') ∧ AtLineEnd (rest.dropWhile (· != '\n')) := by
  constructor
  · intro c hc
    simpa using List.mem_takeWhile_imp hc
  · intro c hc
    simpa using stops_dropWhile (· != '\n') rest c hc

/-- The sign of a comment and the rest of its line are skipped. -/
theorem skipBlanks_hash (rest : List Char) :
    skipBlanks ('#' :: rest) = skipBlanks (rest.dropWhile (· != '\n')) := by
  obtain ⟨hinside, hline⟩ := comment_split rest
  have hskip := skipBlanks_comment hinside hline
  rwa [List.takeWhile_append_dropWhile] at hskip

/-- Induction on the blanks and comments in front of a text. -/
@[elab_as_elim]
theorem skipBlanks_rec {motive : List Char → Prop}
    (start : ∀ cs, skipBlanks cs = cs → motive cs)
    (blank : ∀ c rest, isBlank c = true → motive rest → motive (c :: rest))
    (comment : ∀ rest, motive (rest.dropWhile (· != '\n')) → motive ('#' :: rest))
    (cs : List Char) : motive cs := by
  induction hlength : cs.length using Nat.strongRecOn generalizing cs with
  | ind length ih =>
    cases cs with
    | nil => exact start [] rfl
    | cons c rest =>
      have hless {after : List Char} (hle : after.length ≤ rest.length) :
          after.length < length := by
        rw [← hlength]
        exact Nat.lt_succ_of_le hle
      by_cases hblank : isBlank c = true
      · exact blank c rest hblank (ih _ (hless (Nat.le_refl _)) rest rfl)
      by_cases hcomment : c = '#'
      · subst hcomment
        exact comment rest (ih _ (hless (List.dropWhile_suffix _).length_le) _ rfl)
      · refine start (c :: rest) ?_
        simp [skipBlanks, skipBlanksFrom, hblank, hcomment]

/-- Two texts that are the same after blanks have the same tokens. -/
theorem kinds_congr {cs ds : List Char} (h : skipBlanks cs = skipBlanks ds) :
    kinds cs = kinds ds := by
  rw [kinds, kinds, h]

/-- A text without tokens is blank. -/
theorem skipBlanks_of_kinds_nil {cs : List Char} (h : kinds cs = []) : skipBlanks cs = [] := by
  rw [kinds] at h
  split at h
  · assumption
  · cases h

/-- The first token of a text and the others. -/
theorem kinds_eq_cons {cs : List Char} {t : TokenKind} {ts : List TokenKind}
    (h : kinds cs = t :: ts) : ∃ c rest after, skipBlanks cs = c :: rest ∧
      scanToken c rest = (t, after) ∧ kinds after = ts := by
  rw [kinds] at h
  split at h
  · cases h
  · rename_i c rest hskip
    cases h
    exact ⟨c, rest, _, hskip, rfl, rfl⟩

/-- A text that starts with a point starts with the token of a point or with a number. -/
theorem kinds_eq_cons_point {cs : List Char} {t : TokenKind} {ts : List TokenKind}
    (h : kinds ('.' :: cs) = t :: ts) : t = .dot ∨ IsNumber t := by
  rw [kinds_cons cs rfl (by decide)] at h
  obtain ⟨rfl, -⟩ := List.cons.inj h
  rcases scanToken_point_cases cs with hscan | hscan
  · rw [hscan]
    exact .inr (scanNumber_isNumber _)
  · rw [hscan]
    exact .inl rfl

/-! ## Tokens next to each other -/

/-- Nothing stands between two tokens if one of them is a point. -/
def Touches (t u : Token) : Prop :=
  t.kind = .dot ∨ u.kind = .dot → t.span.stop = u.span.start.offset

instance (kind : TokenKind) : Decidable (kind = .dot) :=
  decidable_of_iff ((kind matches .dot) = true) (by cases kind <;> simp)

instance (t u : Token) : Decidable (Touches t u) :=
  inferInstanceAs (Decidable (t.kind = .dot ∨ u.kind = .dot → t.span.stop = u.span.start.offset))

/-- The tokens of a text touch wherever one of them is a point. -/
def PointsTouch (cs : List Char) : Prop :=
  ∃ fuel place, cs.length ≤ fuel ∧ (tokensFrom fuel place cs).tokens.IsChain Touches

theorem skipBlanksFrom_suffix (inComment : Bool) (cs : List Char) :
    skipBlanksFrom inComment cs <:+ cs := by
  fun_induction skipBlanksFrom inComment cs with
  | case1 => exact List.suffix_refl []
  | case2 rest ih => exact ih.trans (List.suffix_cons ..)
  | case3 c rest _ ih => exact ih.trans (List.suffix_cons ..)
  | case4 _ c rest _ _ ih => exact ih.trans (List.suffix_cons ..)
  | case5 _ rest _ _ ih => exact ih.trans (List.suffix_cons ..)
  | case6 => exact List.suffix_refl _

/-- A place moves by the bytes of the text that it passes. -/
theorem offset_after (place : Position) (text : List Char) :
    (place.after text).offset = place.offset + (text.map Char.utf8Size).sum := by
  induction text generalizing place with
  | nil => rfl
  | cons c text ih =>
    have hnext : (place.next c).offset = place.offset + c.utf8Size := by
      unfold Position.next
      split
      · rfl
      · rfl
    show ((place.next c).after text).offset = _
    rw [ih, hnext, List.map_cons, List.sum_cons, Nat.add_assoc]

/-- A place with the offset of an earlier one is that place. -/
theorem eq_nil_of_offset_after {place : Position} {text : List Char}
    (h : place.offset = (place.after text).offset) : text = [] := by
  rw [offset_after] at h
  cases text with
  | nil => rfl
  | cons c text =>
    have hpos := c.utf8Size_pos
    rw [List.map_cons, List.sum_cons] at h
    omega

theorem consumed_eq_nil {cs rest : List Char} (hsuffix : rest <:+ cs) (h : consumed cs rest = []) :
    rest = cs := by
  rcases List.take_eq_nil_iff.mp h with hlength | rfl
  · have hle := hsuffix.length_le
    exact hsuffix.eq_of_length (by omega)
  · exact List.suffix_nil.mp hsuffix

/-- The first token is what the scanner cuts off after the blanks, and the others are those of
its rest. -/
theorem tokensFrom_cons (fuel : Nat) (place : Position) {c : Char} {cs rest : List Char}
    (h : skipBlanks cs = c :: rest) : ∃ next, (tokensFrom (fuel + 1) place cs).tokens
      = ⟨(scanToken c rest).1, ⟨place.after (consumed cs (c :: rest)), next.offset⟩⟩
        :: (tokensFrom fuel next (scanToken c rest).2).tokens := by
  rw [tokensFrom.eq_def]
  simp only [h]
  exact ⟨_, rfl⟩

/-- `Follows kind cs`: the text `cs` goes on after a token of a kind, and tokens touch wherever
one of them is a point. -/
structure Follows (kind : TokenKind) (cs : List Char) : Prop where
  touch : PointsTouch cs
  first : ∀ c rest, skipBlanks cs = c :: rest → kind = .dot ∨ (scanToken c rest).1 = .dot →
    skipBlanks cs = cs

/-- A token needs a unit of fuel, and leaves enough for its rest. -/
theorem exists_fuel {fuel : Nat} {c : Char} {cs rest : List Char} (h : skipBlanks cs = c :: rest)
    (hfuel : cs.length ≤ fuel) : ∃ less, fuel = less + 1 ∧ (scanToken c rest).2.length ≤ less := by
  have hskip := skipBlanks_length_le cs
  have hscan := scanToken_length_le c rest
  rw [h, List.length_cons] at hskip
  exact ⟨fuel - 1, by omega, by omega⟩

/-- If the tokens of a text touch wherever one of them is a point, so do the first one and what
is left after it. -/
theorem PointsTouch.follows {c : Char} {cs rest after : List Char} {kind : TokenKind}
    (h : PointsTouch cs) (hskip : skipBlanks cs = c :: rest)
    (hscan : scanToken c rest = (kind, after)) : Follows kind after := by
  obtain ⟨fuel, place, hfuel, hchain⟩ := h
  obtain ⟨fuel, rfl, hless⟩ := exists_fuel hskip hfuel
  obtain ⟨next, htokens⟩ := tokensFrom_cons fuel place hskip
  rw [hscan] at htokens hless
  rw [htokens] at hchain
  refine ⟨⟨fuel, next, hless, hchain.tail⟩, ?_⟩
  intro d more hmore hpoint
  obtain ⟨fuel, rfl, -⟩ := exists_fuel hmore hless
  obtain ⟨last, hlast⟩ := tokensFrom_cons fuel next hmore
  rw [hlast] at hchain
  have htouches := (List.isChain_cons_cons.mp hchain).1 hpoint
  rw [hmore]
  refine consumed_eq_nil ?_ (eq_nil_of_offset_after htouches)
  rw [← hmore]
  exact skipBlanksFrom_suffix false _

end RowSignals.Expr.Lexer
