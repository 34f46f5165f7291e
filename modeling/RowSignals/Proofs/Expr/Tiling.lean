import RowSignals.Proofs.Expr.Places

/-!
# Tokens tile their text

A text is its tokens and the gaps between them, which hold blanks and comments only. The place of
each token counts what stands before it, and each token is the same one when its own text stands
alone.

* `Local`, `scanToken_local`: every token, also an invalid one, is found again where a line ends
  after it.
* `Gap`, `gap_skipBlanks`: what the lexer skips.
* `Position.behind`, `after_behind`: the place that the lexer has counted up to.
* `Standalone`: texts of one token; `kinds_intercalate`: many of them on lines of their own.
* `tokensFrom_succ`: one step of the lexer, from one token to the next.
* `Tiles`, `tokenize_tiles`: how the tokens of a text stand in it.
-/

namespace RowSignals

namespace Expr.Lexer

open Number (Stops stops_iff takeWhile_append_stop dropWhile_append_stop)

/-! ## Tokens before the end of a line

A valid token is found again before every text that continues it no more than the one after it.
An invalid one need not be: `1e+x` is the number `1e` that runs into a name, and `1e+5` is a float.
Before the end of a line all of them are. -/

/-- `Local c cs kind rest`: the token of `c :: cs` leaves `rest`, and is found again before every
end of a line. -/
def Local (c : Char) (cs : List Char) (kind : TokenKind) (rest : List Char) : Prop :=
  ∃ used, cs = used ++ rest ∧ ∀ ds, AtLineEnd ds → scanToken c (used ++ ds) = (kind, ds)

/-- The end of a line is the end of the text or a line feed. -/
theorem AtLineEnd.eq_nil_or_cons {ds : List Char} (h : AtLineEnd ds) :
    ds = [] ∨ ∃ more, ds = '\n' :: more := by
  cases ds with
  | nil => exact .inl rfl
  | cons d more =>
    obtain rfl := h d rfl
    exact .inr ⟨more, rfl⟩

/-- Two characters that end no line stand before the end of the line. -/
theorem AtLineEnd.of_append {word ds more : List Char} {c d : Char} (h : AtLineEnd ds)
    (hc : c ≠ '\n') (hd : d ≠ '\n') (heq : word ++ ds = c :: d :: more) :
    ∃ others, word = c :: d :: others := by
  rcases word with _ | ⟨a, _ | ⟨b, word⟩⟩
  · obtain rfl : ds = c :: d :: more := heq
    exact absurd (h c rfl) hc
  · obtain rfl : ds = d :: more := (List.cons.inj heq).2
    exact absurd (h d rfl) hd
  · obtain ⟨rfl, htail⟩ := List.cons.inj heq
    obtain ⟨rfl, -⟩ := List.cons.inj htail
    exact ⟨word, rfl⟩

section
variable {c : Char} {cs rest : List Char} {kind : TokenKind}

/-- A token that is found again before everything that may follow is found again before the end
of a line. -/
theorem Again.local (h : Again c cs kind rest) : Local c cs kind rest := by
  obtain ⟨used, hsplit, -, hagain⟩ := h
  exact ⟨used, hsplit, fun ds hds => hagain ds (hds.ends rest)⟩

/-- The name that a number runs into starts no exponent before the end of a line, as it starts
none before the text that stands after it. -/
theorem EndsExponent.word {exponent word ds : List Char} (h : EndsExponent exponent (word ++ rest))
    (hword : ∀ d ∈ word, isNamePart d = true) (hds : AtLineEnd ds) :
    EndsExponent exponent (word ++ ds) where
  digits hne := ((hds.ends rest).append word).stops_digit (h.digits hne)
  none hnone := by
    have hrest := h.none hnone
    rcases scanExponent_cases (word ++ ds) with heq | ⟨mark, d, more, hmark, hd, heq⟩ |
      ⟨mark, sign, d, more, hmark, hsign, hd, heq⟩
    · exact heq
    -- mark and digit would both be of the name
    · obtain ⟨word, rfl⟩ := hds.of_append hmark.ne_newline (ne_newline_of_isDigit hd) heq
      rw [List.cons_append, List.cons_append, scanExponent_digit hmark hd] at hrest
      cases hrest
    -- no name goes on with a sign
    · obtain ⟨word, rfl⟩ := hds.of_append hmark.ne_newline (ne_newline_of_sign hsign) heq
      have hpart := hword sign (List.mem_cons_of_mem _ List.mem_cons_self)
      rcases hsign with rfl | rfl
      · cases hpart
      · cases hpart

/-- A number is read again before every end of a line. -/
theorem scanNumber_local (h : scanNumber cs = (kind, rest)) : ∃ used, cs = used ++ rest ∧
    ∀ ds, AtLineEnd ds → scanNumber (used ++ ds) = (kind, ds) := by
  obtain ⟨whole, places, exponent, last, hsplit, hparts, -, hends, hagain⟩ :=
    exists_numberParts cs
  -- A name right after a number makes one invalid token of both.
  by_cases hname : last.head?.any isNameStart = true
  · obtain ⟨rfl, rfl⟩ := Prod.mk.inj ((scanNumber_name hparts hname).symm.trans h)
    have hword : ∀ d ∈ last.takeWhile isNamePart, isNamePart d = true :=
      fun d hd => List.mem_takeWhile_imp hd
    have hlast := List.takeWhile_append_dropWhile (p := isNamePart) (l := last)
    refine ⟨whole ++ places ++ exponent ++ last.takeWhile isNamePart, ?_, ?_⟩
    · rw [List.append_assoc _ (last.takeWhile isNamePart), hlast]
      exact hsplit
    · intro ds hds
      have hstops : Stops isNamePart ds := hds.stops rfl
      -- The name is still there and keeps the exponent from going on; where it stops, the line
      -- ends.
      have hends : EndsExponent exponent (last.takeWhile isNamePart ++ ds) :=
        EndsExponent.word (by rwa [hlast]) hword hds
      have halike : EndsAlike (last.takeWhile isNamePart ++ ds) last := by
        have h := (hds.ends (last.dropWhile isNamePart)).append (last.takeWhile isNamePart)
        rwa [hlast] at h
      have hfirst : (last.takeWhile isNamePart ++ ds).head?.any isNameStart = true := by
        obtain ⟨d, hd, hstart⟩ := (Option.any_eq_true _ _).mp hname
        obtain ⟨more, rfl⟩ := List.head?_eq_some_iff.mp hd
        rw [List.takeWhile_cons_of_pos (isNamePart_of_isNameStart hstart)]
        exact hstart
      rw [List.append_assoc, scanNumber_name (hagain _ halike hends) hfirst,
        takeWhile_append_stop hword hstops, dropWhile_append_stop hword hstops]
  · rw [← stops_iff] at hname
    obtain ⟨rfl, rfl⟩ := Prod.mk.inj ((scanNumber_eq hparts hname).symm.trans h)
    refine ⟨whole ++ places ++ exponent, hsplit, ?_⟩
    intro ds hds
    have halike := hds.ends last
    exact scanNumber_eq (hagain ds halike (hends.alike hname halike)) (hds.stops rfl)

theorem local_number (hc : c.isDigit = true ∨ c = '.')
    (hpoint : c = '.' → cs.head?.any Char.isDigit = true)
    (h : scanToken c cs = (kind, rest)) : Local c cs kind rest := by
  rw [scanToken_number hc hpoint] at h
  obtain ⟨used, hsplit, hagain⟩ := scanNumber_local h
  obtain ⟨used, rfl, htoken⟩ := scanNumber_takes hc hpoint h hsplit
  exact ⟨used, (List.cons.inj hsplit).2, fun ds hds => (htoken ds).trans (hagain ds hds)⟩

theorem prepend_eq_none {read : Option (List Char) × List Char}
    (h : prepend c read = (none, rest)) : read = (none, rest) := by
  obtain ⟨found, after⟩ := read
  cases found with
  | none => exact h
  | some text => cases h

theorem scanString_lineEnd (quote : Char) {ds : List Char} (h : AtLineEnd ds) :
    scanString quote ds = (none, ds) := by
  rcases h.eq_nil_or_cons with rfl | ⟨more, rfl⟩
  · rfl
  · rw [scanString.eq_def]
    exact if_pos rfl

theorem scanString_slash_lineEnd {quote : Char} (hquote : IsQuote quote) {ds : List Char}
    (h : AtLineEnd ds) : scanString quote ('\\' :: ds) = (none, ds) := by
  rcases h.eq_nil_or_cons with rfl | ⟨more, rfl⟩
  · rw [scanString.eq_def]
    exact (if_neg (by decide)).trans ((if_neg hquote.ne.2.symm).trans (if_pos rfl))
  · rw [scanString_unescaped hquote more rfl, scanString_lineEnd quote h]
    rfl

/-- A string that is not closed goes on to the end of its line. -/
theorem scanString_unclosed {quote : Char} (hquote : IsQuote quote)
    (h : scanString quote cs = (none, rest)) : ∃ used, cs = used ++ rest ∧
      ∀ ds, AtLineEnd ds → scanString quote (used ++ ds) = (none, ds) := by
  fun_induction scanString quote cs with
  | case1 =>
    cases h
    exact ⟨[], rfl, fun ds hds => scanString_lineEnd quote hds⟩
  | case2 =>
    cases h
    exact ⟨[], rfl, fun ds hds => scanString_lineEnd quote hds⟩
  | case3 => cases h
  -- A backslash is the last character.
  | case4 =>
    cases h
    exact ⟨['\\'], rfl, fun ds hds => scanString_slash_lineEnd hquote hds⟩
  -- A backslash and the character that it escapes, taken together.
  | case5 e more x hescaped _ _ ih =>
    obtain ⟨used, rfl, hagain⟩ := ih (prepend_eq_none h)
    refine ⟨'\\' :: e :: used, rfl, fun ds hds => ?_⟩
    rw [List.cons_append, List.cons_append, scanString_escaped hquote _ hescaped, hagain ds hds]
    rfl
  -- A backslash that escapes nothing is taken alone, so the character after it is the next
  -- one of the string, if it is not a line end.
  | case6 e more hescaped _ _ ih =>
    obtain ⟨used, hsplit, hagain⟩ := ih (prepend_eq_none h)
    refine ⟨'\\' :: used, congrArg ('\\' :: ·) hsplit, fun ds hds => ?_⟩
    cases used with
    | nil => exact scanString_slash_lineEnd hquote hds
    | cons d used =>
      obtain ⟨rfl, -⟩ := List.cons.inj hsplit
      have hstring := hagain ds hds
      rw [List.cons_append] at hstring
      rw [List.cons_append, List.cons_append, scanString_unescaped hquote _ hescaped, hstring]
      rfl
  | case7 d more hline hne hslash ih =>
    obtain ⟨used, rfl, hagain⟩ := ih (prepend_eq_none h)
    refine ⟨d :: used, rfl, fun ds hds => ?_⟩
    rw [List.cons_append, scanString_plain _ hline hne hslash, hagain ds hds]
    rfl

/-- A text in quotes is found again, whether it is closed or not. -/
theorem local_string (hc : IsQuote c) (h : scanToken c cs = (kind, rest)) :
    Local c cs kind rest := by
  rw [scanToken_quote hc] at h
  split at h
  · rename_i text after hscan
    cases h
    obtain ⟨used, rfl, -, hagain⟩ := scanString_split hc hscan
    refine ⟨used, rfl, fun ds _ => ?_⟩
    rw [scanToken_quote hc, (hagain ds).1]
  · rename_i after hscan
    cases h
    obtain ⟨used, rfl, hagain⟩ := scanString_unclosed hc hscan
    refine ⟨used, rfl, fun ds hds => ?_⟩
    rw [scanToken_quote hc, hagain ds hds]

theorem local_word (hc : isNameStart c = true) (h : scanToken c cs = (kind, rest)) :
    Local c cs kind rest := by
  rw [scanToken_nameStart hc] at h
  obtain rfl : cs.dropWhile isNamePart = rest := congrArg Prod.snd h
  refine ⟨cs.takeWhile isNamePart, List.takeWhile_append_dropWhile.symm, fun ds hds => ?_⟩
  rw [scanToken_nameStart hc, scanName_again c (hds.stops rfl), h]

/-- A point, or a number that starts with one, is found again. -/
theorem local_point (h : scanToken '.' cs = (kind, rest)) : Local '.' cs kind rest := by
  by_cases hdigit : cs.head?.any Char.isDigit = true
  · exact local_number (.inr rfl) (fun _ => hdigit) h
  · cases (scanToken_point (stops_iff.mpr hdigit)).symm.trans h
    exact ⟨[], rfl, fun ds hds => scanToken_point (hds.stops rfl)⟩

/-- Every token is found again before every end of a line. -/
theorem scanToken_local (h : scanToken c cs = (kind, rest)) : Local c cs kind rest := by
  cases lead c with
  | sign hscan hc hsign =>
    cases (hscan cs).symm.trans h
    exact (again_sign hc hsign hscan).local
  | pair hscan hc hd hlonger hshorter =>
    exact (again_either hc hd hlonger hshorter hscan ((hscan cs).symm.trans h)).local
  | point hc =>
    subst hc
    exact local_point h
  | quote hc => exact local_string hc h
  | digit hc =>
    refine local_number (.inl hc) ?_ h
    rintro rfl
    cases hc
  | word hc => exact local_word hc h
  | unexpected hscan =>
    cases (hscan cs).symm.trans h
    exact ⟨[], rfl, fun ds _ => hscan ds⟩

end

/-! ## Texts of one token -/

/-- `Standalone kind text`: the text is one token of a kind wherever a line ends after it. -/
def Standalone (kind : TokenKind) (text : List Char) : Prop :=
  ∀ ds, AtLineEnd ds → kinds (text ++ ds) = kind :: kinds ds

/-- The text of a token is one token wherever a line ends after it. -/
theorem exists_standalone {c : Char} {cs rest : List Char} {kind : TokenKind}
    (hblank : isBlank c = false) (hcomment : c ≠ '#') (h : scanToken c cs = (kind, rest)) :
    ∃ used, cs = used ++ rest ∧ Standalone kind (c :: used) := by
  obtain ⟨used, hsplit, hagain⟩ := scanToken_local h
  refine ⟨used, hsplit, fun ds hds => ?_⟩
  rw [List.cons_append, kinds_cons _ hblank hcomment, hagain ds hds]

theorem Standalone.kinds_eq {kind : TokenKind} {text : List Char} (h : Standalone kind text) :
    kinds text = [kind] := by
  have halone := h [] fun c hc => by cases hc
  rwa [List.append_nil, kinds_nil] at halone

/-- On lines of their own, tokens are what they are anywhere else. -/
theorem kinds_intercalate (text : Token → List Char) (ts : List Token)
    (h : ∀ t ∈ ts, Standalone t.kind (text t)) :
    kinds (['\n'].intercalate (ts.map text)) = ts.map (·.kind) := by
  induction ts with
  | nil => exact kinds_nil
  | cons t ts ih =>
    obtain ⟨ht, hts⟩ := List.forall_mem_cons.mp h
    cases ts with
    | nil =>
      show kinds (['\n'].intercalate [text t]) = [t.kind]
      rw [List.intercalate_singleton, ht.kinds_eq]
    | cons u ts =>
      have hline : AtLineEnd ('\n' :: ['\n'].intercalate (text u :: ts.map text)) :=
        fun c hc => by cases hc; rfl
      calc kinds (['\n'].intercalate (text t :: text u :: ts.map text))
          = kinds (text t ++ '\n' :: ['\n'].intercalate (text u :: ts.map text)) := by
            rw [List.intercalate_cons_cons, List.append_assoc]
            rfl
        _ = t.kind :: kinds (['\n'].intercalate (text u :: ts.map text)) := by
            rw [ht _ hline, kinds_blank _ rfl]
        _ = t.kind :: (u :: ts).map (·.kind) := by rw [← ih hts]; rfl

/-! ## What stands between tokens -/

/-- `Gap gap rest`: blanks, and comments that run to the end of their line, before the text
`rest`. -/
inductive Gap : List Char → List Char → Prop
  | nil {rest : List Char} : Gap [] rest
  | blank {c : Char} {gap rest : List Char} : c ∈ [' ', '\t', '\r', '\n'] → Gap gap rest →
    Gap (c :: gap) rest
  | comment {comment gap rest : List Char} : (∀ c ∈ comment, c ≠ '\n') →
    AtLineEnd (gap ++ rest) → Gap gap rest → Gap ('#' :: (comment ++ gap)) rest

theorem gap_skipBlanks (cs : List Char) :
    ∃ gap, cs = gap ++ skipBlanks cs ∧ Gap gap (skipBlanks cs) := by
  induction cs using skipBlanks_rec with
  | start cs hskip =>
    rw [hskip]
    exact ⟨[], rfl, .nil⟩
  | blank c rest hblank ih =>
    obtain ⟨gap, hsplit, hgap⟩ := ih
    rw [skipBlanks_blank hblank]
    exact ⟨c :: gap, congrArg (c :: ·) hsplit, .blank (isBlank_iff_mem_blanks.mp hblank) hgap⟩
  | comment rest ih =>
    obtain ⟨hinside, hline⟩ := comment_split rest
    obtain ⟨gap, hsplit, hgap⟩ := ih
    rw [skipBlanks_hash]
    refine ⟨'#' :: (rest.takeWhile (· != '\n') ++ gap), ?_, .comment hinside ?_ hgap⟩
    · rw [List.cons_append, List.append_assoc, ← hsplit, List.takeWhile_append_dropWhile]
    · rwa [← hsplit]

end Expr.Lexer

/-! ## Places -/

/-- The place behind a text, counted from the text alone: its bytes, the lines that it starts, and
the characters on the last of them. -/
def Position.behind (before : List Char) : Position where
  offset := String.utf8Len before
  line := 1 + before.count '\n'
  column := 1 + (before.reverse.takeWhile (· != '\n')).length

theorem Position.next_behind (before : List Char) (c : Char) :
    (behind before).next c = behind (before ++ [c]) := by
  by_cases hc : c = '\n'
  · subst hc
    simp [next, behind, Nat.add_assoc]
  · simp [next, behind, hc, Nat.add_assoc, Nat.add_comm 1]

theorem Position.after_behind (before text : List Char) :
    (behind before).after text = behind (before ++ text) := by
  induction text generalizing before with
  | nil => rw [List.append_nil]; rfl
  | cons c text ih =>
    show ((behind before).next c).after text = _
    rw [next_behind, ih, List.append_assoc]
    rfl

namespace Expr.Lexer

/-! ## Tokens and the gaps between them -/

/-- `Tiles before ts cs`: after the text `before`, the text `cs` is the tokens `ts` one after
another, with gaps before, between and after them. -/
inductive Tiles : List Char → List Token → List Char → Prop
  | finish {before gap : List Char} : Gap gap [] → Tiles before [] gap
  | token {before gap text rest : List Char} {t : Token} {ts : List Token} :
    Gap gap (text ++ rest) → text ≠ [] → Standalone t.kind text →
    t.span = ⟨.behind (before ++ gap), String.utf8Len (before ++ gap ++ text)⟩ →
    Tiles (before ++ gap ++ text) ts rest → Tiles before (t :: ts) (gap ++ (text ++ rest))

/-- If nothing but a gap is left there are no tokens, and the end is behind it. -/
theorem tokensFrom_nil (fuel : Nat) (before : List Char) {cs : List Char}
    (hskip : skipBlanks cs = []) : tokensFrom fuel (.behind before) cs
      = ⟨[], ⟨.behind (before ++ cs), String.utf8Len (before ++ cs)⟩⟩ := by
  have hconsumed : consumed cs [] = cs := consumed_eq (List.append_nil cs).symm
  rw [tokensFrom.eq_def]
  simp only [hskip, hconsumed, Position.after_behind]
  rfl

/-- After a gap the token is at the place behind it, and the others are those of the rest. -/
theorem tokensFrom_token (fuel : Nat) (before : List Char) {c : Char} {kind : TokenKind}
    {gap used rest : List Char}
    (hskip : skipBlanks (gap ++ c :: (used ++ rest)) = c :: (used ++ rest))
    (hscan : scanToken c (used ++ rest) = (kind, rest)) :
    tokensFrom (fuel + 1) (.behind before) (gap ++ c :: (used ++ rest)) =
      let others := tokensFrom fuel (.behind (before ++ gap ++ c :: used)) rest
      let span := ⟨.behind (before ++ gap), String.utf8Len (before ++ gap ++ c :: used)⟩
      { others with tokens := ⟨kind, span⟩ :: others.tokens } := by
  have hgap : consumed (gap ++ c :: (used ++ rest)) (c :: (used ++ rest)) = gap := consumed_eq rfl
  have htext : consumed (c :: (used ++ rest)) rest = c :: used := consumed_eq rfl
  rw [tokensFrom.eq_def]
  simp only [hskip, hgap, hscan, htext, Position.after_behind]
  rfl

/-- One step of the lexer: a gap is all that is left, or a token stands behind one, and the lexer
goes on behind the token. -/
theorem tokensFrom_succ (fuel : Nat) (before cs : List Char) :
    (Gap cs [] ∧ tokensFrom (fuel + 1) (.behind before) cs
      = ⟨[], ⟨.behind (before ++ cs), String.utf8Len (before ++ cs)⟩⟩) ∨
    ∃ gap c used rest kind, cs = gap ++ c :: (used ++ rest) ∧ Gap gap (c :: (used ++ rest)) ∧
      scanToken c (used ++ rest) = (kind, rest) ∧ Standalone kind (c :: used) ∧
      tokensFrom (fuel + 1) (.behind before) cs =
        let others := tokensFrom fuel (.behind (before ++ gap ++ c :: used)) rest
        let span := ⟨.behind (before ++ gap), String.utf8Len (before ++ gap ++ c :: used)⟩
        { others with tokens := ⟨kind, span⟩ :: others.tokens } := by
  obtain ⟨gap, hsplit, hgap⟩ := gap_skipBlanks cs
  cases hskip : skipBlanks cs with
  | nil =>
    rw [hskip, List.append_nil] at hsplit
    rw [hskip, ← hsplit] at hgap
    exact .inl ⟨hgap, tokensFrom_nil _ before hskip⟩
  | cons c after =>
    rcases hscan : scanToken c after with ⟨kind, rest⟩
    obtain ⟨hblank, hcomment⟩ := skipBlanksFrom_cons hskip
    obtain ⟨used, rfl, halone⟩ := exists_standalone hblank hcomment hscan
    rw [hskip] at hsplit hgap
    subst hsplit
    refine .inr ⟨gap, c, used, rest, kind, rfl, hgap, hscan, halone, ?_⟩
    exact tokensFrom_token fuel before hskip hscan

/-- With as much fuel as characters the tokens tile the text, up to its end. By induction on the
fuel, since every token takes a character. -/
theorem tiles_tokensFrom {fuel : Nat} (before : List Char) {cs : List Char}
    (hfuel : cs.length ≤ fuel) :
    Tiles before (tokensFrom fuel (.behind before) cs).tokens cs ∧
      (tokensFrom fuel (.behind before) cs).finish
        = ⟨.behind (before ++ cs), String.utf8Len (before ++ cs)⟩ := by
  induction fuel generalizing before cs with
  | zero =>
    obtain rfl := List.eq_nil_of_length_eq_zero (Nat.le_zero.mp hfuel)
    rw [tokensFrom_nil 0 before rfl]
    exact ⟨.finish .nil, rfl⟩
  | succ fuel ih =>
    -- Only a gap is left, or a gap and a token.
    rcases tokensFrom_succ fuel before cs with
      ⟨hgap, htokens⟩ | ⟨gap, c, used, rest, kind, rfl, hgap, -, halone, htokens⟩
    · rw [htokens]
      exact ⟨.finish hgap, rfl⟩
    · have hless : rest.length ≤ fuel := by
        simp only [List.length_append, List.length_cons] at hfuel
        omega
      obtain ⟨htiles, hfinish⟩ := ih (before ++ gap ++ c :: used) hless
      rw [htokens]
      constructor
      · show Tiles before _ (gap ++ (c :: used ++ rest))
        exact .token hgap (List.cons_ne_nil c used) halone rfl htiles
      · show (tokensFrom fuel _ rest).finish = _
        rw [hfinish]
        simp only [List.append_assoc, List.cons_append]

section
variable {before cs : List Char} {ts : List Token}

/-- Tokens that tile a text follow each other and do not overlap. -/
theorem Tiles.ordered (h : Tiles before ts cs) :
    (∀ t ∈ ts, String.utf8Len before ≤ t.span.start.offset) ∧
      ts.Pairwise fun t u => t.span.stop ≤ u.span.start.offset := by
  induction h with
  | finish => exact ⟨List.forall_mem_nil _, .nil⟩
  | @token before gap text rest t ts _ _ _ hspan _ ih =>
    obtain ⟨hlater, hordered⟩ := ih
    have hstart : t.span.start.offset = String.utf8Len (before ++ gap) := by
      rw [hspan]
      rfl
    have hstop : t.span.stop = String.utf8Len (before ++ gap ++ text) := by
      rw [hspan]
    constructor
    · intro u hu
      rcases List.mem_cons.mp hu with rfl | hu
      · rw [hstart, String.utf8Len_append]
        exact Nat.le_add_right _ _
      · refine Nat.le_trans ?_ (hlater u hu)
        rw [String.utf8Len_append, String.utf8Len_append, Nat.add_assoc]
        exact Nat.le_add_right _ _
    · refine .cons ?_ hordered
      intro u hu
      rw [hstop]
      exact hlater u hu

/-- `Holds source t`: a text is some text, the text of a token, and some more. -/
def Holds (source : List Char) (t : Token) : Prop :=
  ∃ front text back, source = front ++ text ++ back ∧ text ≠ [] ∧ Standalone t.kind text ∧
    t.span = ⟨.behind front, String.utf8Len (front ++ text)⟩

theorem Tiles.holds (h : Tiles before ts cs) : ∀ t ∈ ts, Holds (before ++ cs) t := by
  induction h with
  | finish => exact List.forall_mem_nil _
  | @token before gap text rest t ts _ hne halone hspan _ ih =>
    refine List.forall_mem_cons.mpr ⟨?_, ?_⟩
    · refine ⟨before ++ gap, text, rest, ?_, hne, halone, hspan⟩
      simp only [List.append_assoc]
    · simpa only [List.append_assoc] using ih

end

end Expr.Lexer

/-! ## The tokens of a text -/

/-- The piece of a text that a span covers. -/
def Span.slice (span : Span) (source : String) : String :=
  String.Pos.Raw.extract source ⟨span.start.offset⟩ ⟨span.stop⟩

/-- A span covers some characters of a text, and its place counts what stands before them. -/
structure Span.Covers (span : Span) (source : String) : Prop where
  nonempty : span.start.offset < span.stop
  inside : span.stop ≤ source.utf8ByteSize
  startsAt : (⟨span.start.offset⟩ : String.Pos.Raw).Valid source
  stopsAt : (⟨span.stop⟩ : String.Pos.Raw).Valid source
  place : span.start
    = .behind (String.Pos.Raw.extract source 0 ⟨span.start.offset⟩).toList

namespace Expr.Lexer

section
variable {source : String} {t : Token}

/-- A piece of a text between two places is what stands between them. -/
theorem extract_eq (front text back : List Char) (h : source.toList = front ++ text ++ back) :
    String.Pos.Raw.extract source ⟨String.utf8Len front⟩ ⟨String.utf8Len (front ++ text)⟩
      = String.ofList text := by
  rw [← String.ofList_toList (s := source), h, String.utf8Len_append]
  exact String.extract_of_valid front text back

theorem Holds.slice (h : Holds source.toList t) :
    Standalone t.kind (t.span.slice source).toList := by
  obtain ⟨front, text, back, hsource, -, halone, hspan⟩ := h
  have hslice : t.span.slice source = String.ofList text := by
    rw [Span.slice, hspan]
    exact extract_eq front text back hsource
  rwa [hslice, String.toList_ofList]

theorem Holds.covers (h : Holds source.toList t) : t.span.Covers source := by
  obtain ⟨front, text, back, hsource, hne, -, hspan⟩ := h
  have hsize : source.utf8ByteSize
      = String.utf8Len front + String.utf8Len text + String.utf8Len back := by
    rw [← String.utf8Len_toList, hsource, String.utf8Len_append, String.utf8Len_append]
  have hlength : String.utf8Len (front ++ text) = String.utf8Len front + String.utf8Len text :=
    String.utf8Len_append _ _
  have hpos : String.utf8Len text ≠ 0 := String.utf8Len_eq_zero.not.mpr hne
  rw [hspan]
  constructor
  · show String.utf8Len front < String.utf8Len (front ++ text)
    omega
  · show String.utf8Len (front ++ text) ≤ source.utf8ByteSize
    omega
  · refine .intro ⟨front, text ++ back, ?_, rfl⟩
    rw [hsource, List.append_assoc]
  · exact .intro ⟨front ++ text, back, hsource.symm, rfl⟩
  · have hfront : String.Pos.Raw.extract source 0 ⟨String.utf8Len front⟩ = String.ofList front :=
      extract_eq [] front (text ++ back) (by rw [hsource, List.append_assoc]; rfl)
    show _ = Position.behind (String.Pos.Raw.extract source 0 ⟨String.utf8Len front⟩).toList
    rw [hfront, String.toList_ofList]

end

/-- The tokens of a text tile it. The end stands behind the last character. The tokens cover some
characters each, one after another, their places count what stands before them, and nothing but
blanks and comments stands between them. Each is the same token when its own text stands alone, and
so are all of them when each stands on a line of its own. -/
theorem tokenize_tiles (source : String) :
    (tokenize source).finish = ⟨.behind source.toList, source.utf8ByteSize⟩ ∧
    (tokenize source).finish.start.offset = source.utf8ByteSize ∧
    (∀ t ∈ (tokenize source).tokens, t.span.Covers source) ∧
    (tokenize source).tokens.Pairwise (fun t u => t.span.stop ≤ u.span.start.offset) ∧
    Tiles [] (tokenize source).tokens source.toList ∧
    (∀ t ∈ (tokenize source).tokens, (tokenize (t.span.slice source)).kinds = [t.kind]) ∧
    (tokenize ("\n".intercalate ((tokenize source).tokens.map (·.span.slice source)))).kinds
      = (tokenize source).kinds := by
  obtain ⟨htiles, hfinish⟩ :
      Tiles [] (tokenize source).tokens source.toList ∧ (tokenize source).finish
        = ⟨.behind ([] ++ source.toList), String.utf8Len ([] ++ source.toList)⟩ :=
    tiles_tokensFrom [] (Nat.le_refl _)
  rw [List.nil_append, String.utf8Len_toList] at hfinish
  have hholds (t : Token) (ht : t ∈ (tokenize source).tokens) : Holds source.toList t :=
    htiles.holds t ht
  refine ⟨hfinish, ?_, fun t ht => (hholds t ht).covers, htiles.ordered.2, htiles, ?_, ?_⟩
  · rw [hfinish]
    exact String.utf8Len_toList source
  · intro t ht
    rw [kinds_tokenize, (hholds t ht).slice.kinds_eq]
  · rw [kinds_tokenize, String.toList_intercalate, List.map_map]
    exact kinds_intercalate _ _ fun t ht => (hholds t ht).slice

end Expr.Lexer

end RowSignals
