import RowSignals.Proofs.Expr.Scanning

/-!
# Places of tokens

No token goes on after the end of a line. So the lines on which tokens stand can be told without
cutting the text into tokens: a token stands where there is more than blanks and a comment.

* `Tokens.places`, `Tokens.lines`: where the tokens of a text and its end stand.
* `OnLine`: text that does not end a line; `onLine_scanToken`: such is the text of a token.
* `tokenLines`: the lines of a text that have tokens; `mem_lines_tokenize`: they are those of its
  tokens.
-/

namespace RowSignals

/-- The lines and columns of the tokens, and those of the end. -/
def Tokens.places (ts : Tokens) : List (Nat × Nat) :=
  (ts.tokens.map (·.span.start) ++ [ts.finish.start]).map fun place => (place.line, place.column)

/-- The lines of the tokens, and that of the end. -/
def Tokens.lines (ts : Tokens) : List Nat :=
  ts.places.map Prod.fst

namespace Expr

open Lexer (isBlank isNamePart skipBlanks skipBlanksFrom scanToken scanNumber scanString
  scanExponent tokensFrom consumed)

/-! ## Tokens end on their lines -/

theorem ne_newline_of_isNamePart {c : Char} (h : isNamePart c = true) : c ≠ '\n' := by
  rintro rfl
  cases h

theorem ne_newline_of_isDigit {c : Char} (h : c.isDigit = true) : c ≠ '\n' := by
  rintro rfl
  cases h

theorem ne_newline_of_not_isBlank {c : Char} (h : isBlank c = false) : c ≠ '\n' := by
  rintro rfl
  cases h

/-- `OnLine cs rest`: some text without a line end, and then `rest`. -/
def OnLine (cs rest : List Char) : Prop :=
  ∃ used, cs = used ++ rest ∧ ∀ c ∈ used, c ≠ '\n'

theorem OnLine.refl (cs : List Char) : OnLine cs cs :=
  ⟨[], rfl, List.forall_mem_nil _⟩

/-- A further character in front stays on the line unless it ends one. -/
theorem OnLine.cons {c : Char} {cs rest : List Char} (hc : c ≠ '\n') (h : OnLine cs rest) :
    OnLine (c :: cs) rest := by
  obtain ⟨used, rfl, hused⟩ := h
  exact ⟨c :: used, rfl, List.forall_mem_cons.mpr ⟨hc, hused⟩⟩

theorem OnLine.trans {cs ds rest : List Char} (hcs : OnLine cs ds) (hds : OnLine ds rest) :
    OnLine cs rest := by
  obtain ⟨used, rfl, hused⟩ := hcs
  obtain ⟨more, rfl, hmore⟩ := hds
  exact ⟨used ++ more, (List.append_assoc ..).symm, List.forall_mem_append.mpr ⟨hused, hmore⟩⟩

/-- Characters of a class without line feeds stay on the line. -/
theorem OnLine.dropWhile {p : Char → Bool} (h : ∀ c, p c = true → c ≠ '\n') (cs : List Char) :
    OnLine cs (cs.dropWhile p) :=
  ⟨cs.takeWhile p, List.takeWhile_append_dropWhile.symm,
    fun c hc => h c (List.mem_takeWhile_imp hc)⟩

/-- Digits stay on the line, and so do all parts of a number. -/
theorem onLine_spanDigits (cs : List Char) : OnLine cs (Number.spanDigits cs).2 := by
  rw [Number.spanDigits, List.span_eq_takeWhile_dropWhile]
  exact .dropWhile (fun c => ne_newline_of_isDigit) cs

theorem onLine_scanPlaces (cs : List Char) : OnLine cs (Lexer.scanPlaces cs).2 := by
  unfold Lexer.scanPlaces
  split
  · exact .cons (by decide) (onLine_spanDigits _)
  · exact .refl _

theorem Lexer.IsMark.ne_newline {mark : Char} (h : IsMark mark) : mark ≠ '\n' := by
  rcases h with rfl | rfl
  · decide
  · decide

theorem ne_newline_of_sign {sign : Char} (h : sign = '+' ∨ sign = '-') : sign ≠ '\n' := by
  rcases h with rfl | rfl
  · decide
  · decide

theorem onLine_scanExponent (cs : List Char) : OnLine cs (scanExponent cs).2 := by
  rcases Lexer.scanExponent_cases cs with hnone | ⟨mark, d, more, hm, hd, rfl⟩ |
    ⟨mark, sign, d, more, hm, hsign, hd, rfl⟩
  · rw [hnone]
    exact .refl _
  · rw [Lexer.scanExponent_digit hm hd]
    exact .cons hm.ne_newline (onLine_spanDigits _)
  · rw [Lexer.scanExponent_sign hm hsign hd]
    exact .cons hm.ne_newline (.cons (ne_newline_of_sign hsign) (onLine_spanDigits _))

theorem onLine_scanNumber (cs : List Char) : OnLine cs (scanNumber cs).2 := by
  have hnumber := (onLine_spanDigits cs).trans
    ((onLine_scanPlaces _).trans (onLine_scanExponent _))
  unfold scanNumber
  dsimp only
  split
  · exact hnumber.trans (.dropWhile (fun c => ne_newline_of_isNamePart) _)
  · split
    · exact hnumber
    · split
      · exact hnumber
      · exact hnumber

/-- A string ends on its line even when it is not closed. -/
theorem onLine_scanString (quote : Char) (cs : List Char) :
    OnLine cs (scanString quote cs).2 := by
  have hslash : '\\' ≠ '\n' := by decide
  fun_induction scanString quote cs with
  | case1 => exact .refl _
  | case2 => exact .refl _
  | case3 rest hline => exact .cons hline (.refl rest)
  | case4 => exact .cons hslash (.refl [])
  | case5 e after x hescaped _ _ ih =>
    have he : e ≠ '\n' := by
      rintro rfl
      cases hescaped
    exact .cons hslash (.cons he ih)
  | case6 e after _ _ _ ih => exact .cons hslash ih
  | case7 c rest hline _ _ ih => exact .cons hline ih

/-- A sign of one or two characters stays on the line. -/
theorem onLine_either {c : Char} (hc : c ≠ '\n') (longer shorter : TokenKind) (cs : List Char) :
    OnLine cs (Lexer.either c longer shorter cs).2 := by
  unfold Lexer.either
  split
  · split
    · rename_i heq
      exact .cons (heq ▸ hc) (.refl _)
    · exact .refl _
  · exact .refl _

/-- What is left after at least one character is on the line after that character. -/
theorem OnLine.tail {c : Char} {cs rest : List Char} (h : OnLine (c :: cs) rest)
    (hlength : rest.length ≤ cs.length) : OnLine cs rest := by
  obtain ⟨used, hsplit, hused⟩ := h
  cases used with
  | nil =>
    -- then the rest would be longer than it is
    rw [← show c :: cs = rest from hsplit] at hlength
    exact absurd hlength (Nat.not_succ_le_self _)
  | cons d used =>
    obtain ⟨rfl, rfl⟩ := List.cons.inj hsplit
    exact ⟨used, rfl, (List.forall_mem_cons.mp hused).2⟩

theorem ne_newline_of_mem_signs {c : Char} (h : c ∈ Lexer.signs) : c ≠ '\n' := by
  rintro rfl
  exact absurd h (by decide)

/-- A token ends on the line where it starts. -/
theorem onLine_scanToken (c : Char) (cs : List Char) : OnLine cs (scanToken c cs).2 := by
  cases Lexer.lead c with
  | sign hscan _ _ | unexpected hscan =>
    rw [hscan]
    exact .refl cs
  | pair hscan _ hd _ _ =>
    rw [hscan]
    exact onLine_either (ne_newline_of_mem_signs hd) _ _ cs
  | point hc =>
    subst hc
    rcases Lexer.scanToken_point_cases cs with hscan | hscan
    · rw [hscan]
      exact (onLine_scanNumber _).tail (Lexer.scanNumber_point_length_le cs)
    · rw [hscan]
      exact .refl cs
  -- An unclosed string stops before the end of its line.
  | quote hc =>
    have hstring := onLine_scanString c cs
    rw [Lexer.scanToken_quote hc]
    split
    · rename_i heq
      rwa [heq] at hstring
    · rename_i heq
      rwa [heq] at hstring
  | digit hc =>
    rw [Lexer.scanToken_digit hc]
    exact (onLine_scanNumber _).tail (Lexer.scanNumber_digit_length_le cs hc)
  | word hc =>
    rw [Lexer.scanToken_nameStart hc]
    exact .dropWhile (fun c => ne_newline_of_isNamePart) cs

/-! ## Lines that have tokens -/

/-- The lines of a text on which a token stands, and the last line. A token stands on a line where
the first character that is no blank does not open a comment; `seen` tells that this character is
already passed. -/
def tokenLines (line : Nat) (seen : Bool) : List Char → List Nat
  | [] => [line]
  | c :: cs =>
    if c = '\n' then tokenLines (line + 1) false cs
    else if seen || isBlank c then tokenLines line seen cs
    else if c = '#' then tokenLines line true cs
    else line :: tokenLines line true cs

section
variable {line : Nat} {seen : Bool} {c : Char} {cs rest : List Char}

/-- After a line feed no token of the next line was seen. -/
theorem tokenLines_newline (line : Nat) (seen : Bool) (cs : List Char) :
    tokenLines line seen ('\n' :: cs) = tokenLines (line + 1) false cs :=
  if_pos rfl

/-- Once a token of the line was seen, the rest of the line adds nothing. -/
theorem tokenLines_seen_cons (hc : c ≠ '\n') (line : Nat) (cs : List Char) :
    tokenLines line true (c :: cs) = tokenLines line true cs :=
  (if_neg hc).trans (if_pos rfl)

theorem tokenLines_blank (hc : c ≠ '\n') (hblank : isBlank c = true) (line : Nat)
    (cs : List Char) : tokenLines line false (c :: cs) = tokenLines line false cs :=
  (if_neg hc).trans (if_pos hblank)

/-- The rest of a line after the sign of a comment adds nothing. -/
theorem tokenLines_comment (line : Nat) (cs : List Char) :
    tokenLines line false ('#' :: cs) = tokenLines line true cs :=
  rfl

/-- A character that is no blank and opens no comment starts the first token of its line. -/
theorem tokenLines_token (hblank : isBlank c = false) (hcomment : c ≠ '#') (line : Nat)
    (cs : List Char) : tokenLines line false (c :: cs) = line :: tokenLines line true cs := by
  have hc := ne_newline_of_not_isBlank hblank
  have hblank : ¬ (false || isBlank c) = true := Bool.eq_false_iff.mp hblank
  rw [tokenLines, if_neg hc, if_neg hblank, if_neg hcomment]

/-- The rest of a line on which a token stands adds nothing. -/
theorem tokenLines_seen (h : OnLine cs rest) (line : Nat) :
    tokenLines line true cs = tokenLines line true rest := by
  obtain ⟨used, rfl, hused⟩ := h
  induction used with
  | nil => rfl
  | cons c used ih =>
    obtain ⟨hc, hused⟩ := List.forall_mem_cons.mp hused
    rw [List.cons_append, tokenLines_seen_cons hc]
    exact ih hused

/-- On a line that is counted already it does not matter what was passed. -/
theorem mem_tokenLines_seen (line : Nat) (cs : List Char) {n : Nat} :
    n ∈ line :: tokenLines line true cs ↔ n ∈ line :: tokenLines line false cs := by
  induction cs with
  | nil => exact Iff.rfl
  | cons c cs ih =>
    by_cases hc : c = '\n'
    · rw [hc, tokenLines_newline, tokenLines_newline]
    rw [tokenLines_seen_cons hc]
    by_cases hblank : isBlank c = true
    · rw [tokenLines_blank hc hblank]
      exact ih
    by_cases hcomment : c = '#'
    · rw [hcomment, tokenLines_comment]
    · rw [tokenLines_token (Bool.eq_false_iff.mpr hblank) hcomment]
      simp

theorem after_cons (place : Position) (c : Char) (cs : List Char) :
    place.after (c :: cs) = (place.next c).after cs :=
  rfl

theorem next_line_of_ne (place : Position) (hc : c ≠ '\n') : (place.next c).line = place.line := by
  rw [Position.next, if_neg hc]

/-- Blanks and comments have no tokens, so that only the lines go on. -/
theorem tokenLines_skip (inComment : Bool) (cs : List Char) (place : Position) :
    ∃ used, cs = used ++ skipBlanksFrom inComment cs ∧ tokenLines place.line inComment cs
      = tokenLines (place.after used).line false (skipBlanksFrom inComment cs) := by
  fun_induction skipBlanksFrom inComment cs generalizing place with
  | case1 => exact ⟨[], rfl, rfl⟩
  | case2 rest ih =>
    obtain ⟨used, hsplit, hlines⟩ := ih (place.next '\n')
    refine ⟨'\n' :: used, congrArg ('\n' :: ·) hsplit, ?_⟩
    rw [tokenLines_newline, after_cons, ← hlines]
    rfl
  -- A comment goes on.
  | case3 c rest hc ih =>
    obtain ⟨used, hsplit, hlines⟩ := ih (place.next c)
    refine ⟨c :: used, congrArg (c :: ·) hsplit, ?_⟩
    rw [tokenLines_seen_cons hc, after_cons, ← hlines, next_line_of_ne place hc]
  -- A blank, which may end a line.
  | case4 inComment c rest hopen hblank ih =>
    obtain rfl := Bool.eq_false_iff.mpr hopen
    obtain ⟨used, hsplit, hlines⟩ := ih (place.next c)
    refine ⟨c :: used, congrArg (c :: ·) hsplit, ?_⟩
    rw [after_cons, ← hlines]
    by_cases hc : c = '\n'
    · rw [hc, tokenLines_newline]
      rfl
    · rw [tokenLines_blank hc hblank, next_line_of_ne place hc]
  -- A comment starts.
  | case5 inComment rest hopen _ ih =>
    obtain rfl := Bool.eq_false_iff.mpr hopen
    obtain ⟨used, hsplit, hlines⟩ := ih (place.next '#')
    refine ⟨'#' :: used, congrArg ('#' :: ·) hsplit, ?_⟩
    rw [tokenLines_comment, after_cons, ← hlines, next_line_of_ne place (by decide)]
  | case6 inComment c rest hopen _ _ =>
    obtain rfl := Bool.eq_false_iff.mpr hopen
    exact ⟨[], rfl, rfl⟩

/-- What was consumed is the part in front of the rest. -/
theorem consumed_append (used rest : List Char) : consumed (used ++ rest) rest = used := by
  rw [consumed, List.length_append, Nat.add_sub_cancel, List.take_left]

/-- A text without line feeds leaves the line as it is. -/
theorem after_line_of_onLine {used : List Char} (h : ∀ c ∈ used, c ≠ '\n') (place : Position) :
    (place.after used).line = place.line := by
  induction used generalizing place with
  | nil => rfl
  | cons c used ih =>
    obtain ⟨hc, hused⟩ := List.forall_mem_cons.mp h
    rw [after_cons, ih hused, next_line_of_ne place hc]

theorem consumed_eq {used : List Char} (h : cs = used ++ rest) : consumed cs rest = used := by
  subst h
  exact consumed_append used rest

/-- A token leaves its line only where the text after it does. -/
theorem OnLine.after_line (h : OnLine cs rest) (place : Position) :
    (place.after (consumed cs rest)).line = place.line := by
  obtain ⟨used, hsplit, hused⟩ := h
  rw [consumed_eq hsplit, after_line_of_onLine hused]

/-- The tokens of a text and its end stand on its lines that have tokens, and on the last one. -/
theorem mem_lines_tokensFrom {fuel n : Nat} (place : Position) (hfuel : cs.length ≤ fuel) :
    n ∈ (tokensFrom fuel place cs).lines ↔ n ∈ tokenLines place.line false cs := by
  induction fuel generalizing place cs with
  | zero =>
    obtain rfl := List.eq_nil_of_length_eq_zero (Nat.le_zero.mp hfuel)
    exact Iff.rfl
  | succ fuel ih =>
    obtain ⟨used, hsplit, hlines⟩ := tokenLines_skip false cs place
    have hstart : place.after (consumed cs (skipBlanks cs)) = place.after used :=
      congrArg place.after (consumed_eq hsplit)
    rw [hlines]
    unfold tokensFrom
    show _ ↔ n ∈ tokenLines (place.after used).line false (skipBlanks cs)
    dsimp only
    rw [hstart]
    cases hskip : skipBlanks cs with
    | nil => exact Iff.rfl
    | cons c after =>
      have hlength := Lexer.skipBlanks_length_le cs
      have hscan := Lexer.scanToken_length_le c after
      rw [hskip, List.length_cons] at hlength
      obtain ⟨hblank, hcomment⟩ := Lexer.skipBlanksFrom_cons hskip
      have hc := ne_newline_of_not_isBlank hblank
      have honline := onLine_scanToken c after
      -- the tokens after the first one, which ends on the line where it starts
      have hothers := ih ((place.after used).after (consumed (c :: after) (scanToken c after).2))
        (by omega : (scanToken c after).2.length ≤ fuel)
      rw [(honline.cons hc).after_line] at hothers
      rw [tokenLines_token hblank hcomment, tokenLines_seen honline, mem_tokenLines_seen]
      show n ∈ (place.after used).line :: Tokens.lines (tokensFrom fuel _ _) ↔ _
      rw [List.mem_cons, List.mem_cons, hothers]

/-- A line of a text has a token if one starts on it. -/
theorem mem_lines_tokenize {source : String} {n : Nat} :
    n ∈ (Lexer.tokenize source).lines ↔ n ∈ tokenLines 1 false source.toList :=
  mem_lines_tokensFrom {} (Nat.le_refl _)

/-- What follows the same text has the same lines. -/
theorem tokenLines_append {ds : List Char}
    (h : ∀ line seen, tokenLines line seen cs = tokenLines line seen ds) (used : List Char) :
    ∀ line seen, tokenLines line seen (used ++ cs) = tokenLines line seen (used ++ ds) := by
  induction used with
  | nil => exact h
  | cons c used ih =>
    intro line seen
    rw [List.cons_append, List.cons_append, tokenLines, tokenLines, ih, ih, ih]

/-- A piece of a line that starts with a token. -/
theorem tokenLines_first (hblank : isBlank c = false) (hcomment : c ≠ '#') (h : OnLine cs rest)
    (line : Nat) (seen : Bool) : tokenLines line seen (c :: cs)
      = if seen then tokenLines line true rest else line :: tokenLines line true rest := by
  cases seen with
  | true =>
    have hc := ne_newline_of_not_isBlank hblank
    rw [if_pos rfl, tokenLines_seen_cons hc, tokenLines_seen h]
  | false =>
    rw [if_neg Bool.false_ne_true, tokenLines_token hblank hcomment, tokenLines_seen h]

end

end Expr

end RowSignals
