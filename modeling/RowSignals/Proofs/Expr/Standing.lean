import RowSignals.Proofs.Expr.Parsing
import RowSignals.Proofs.Expr.Replacing

/-!
# Where names stand

A known name stands bare in a text where resolving finds it: outside quoted texts and comments,
and not within a longer name. A text in which no known name stands is left alone. Where one
stands, the look-up that takes its place brings one more quoted text into the text. Quoted texts
are tokens, and tokens are constants and keys in the tree, so that the resolved text is not read
as the tree of the text itself.

* `Stands`: a name stands in a text; `resolve_of_none_stands`: a text without such names stays.
* `Quotes`: the number of quoted texts in a text; `Quotes.grows`: look-ups add to it.
* `Expr.texts`: the number of quoted texts that a tree is written with; `quotes_of_parse`: it is
  that of every text that is read as the tree.
* `parse_resolve_ne`: a text is not read alike before and after resolving.
-/

namespace RowSignals

namespace Names

open Expr.Lexer (IsQuote)

/-- `Stands name before text`: a name that may be replaced stands in a text that follows the
character `before`, outside quoted texts and comments, and neither goes on with what stands
before it nor goes on after its end. -/
inductive Stands (name : List Char) : Option Char → List Char → Prop
  | here {before : Option Char} {c : Char} {rest : List Char} : Plain c →
    before.any continuesName = false → isReplaceable name = true →
    (referenceAt? name (c :: rest)).isSome = true → Stands name before (c :: rest)
  | later {before : Option Char} {c : Char} {rest : List Char} : Plain c →
    Stands name (some c) rest → Stands name before (c :: rest)
  | quote {before : Option Char} {c : Char} {rest : List Char} : IsQuote c →
    Stands name ((literalEnd c rest).1.getLast?.or (some c)) (literalEnd c rest).2 →
    Stands name before (c :: rest)
  | comment {before : Option Char} {rest : List Char} :
    Stands name ((rest.takeWhile (· != '\n')).getLast?.or (some '#'))
      (rest.dropWhile (· != '\n')) → Stands name before ('#' :: rest)

section
variable {names : List (List Char)} {name text : List Char} {before : Option Char}

/-! ## Texts that stay -/

/-- A text in which no known name stands is left as it is. -/
theorem resolve_of_none_stands (h : ∀ name ∈ names, ¬ Stands name before text) :
    resolve names before text = text := by
  -- On the length, since a quoted text and a comment are passed over at once.
  induction hlength : text.length using Nat.strongRecOn generalizing before text with
  | ind length ih =>
    cases text with
    | nil => exact resolve_nil
    | cons c rest =>
      have hless {after : List Char} (hle : after.length ≤ rest.length) :
          after.length < length := by
        rw [← hlength, List.length_cons]
        omega
      by_cases hquote : IsQuote c
      · rw [resolve_quote hquote, ih _ (hless (literalEnd_length_le c rest))
          (fun name hmem hstands => h name hmem (.quote hquote hstands)) rfl, literalEnd_append]
      by_cases hcomment : c = '#'
      · subst hcomment
        rw [resolve_comment, ih _ (hless (List.dropWhile_suffix _).length_le)
          (fun name hmem hstands => h name hmem (.comment hstands)) rfl,
          List.takeWhile_append_dropWhile]
      have hplain : Plain c := ⟨hquote, hcomment⟩
      -- A name could only be replaced here if it stood here.
      have hnone : before.any continuesName = true ∨
          longestReference names (c :: rest) = none := by
        by_cases hbefore : before.any continuesName = true
        · exact .inl hbefore
        · rw [longestReference_eq_none_iff]
          refine .inr fun name hmem hreplaceable hsome => ?_
          exact h name hmem (.here hplain (Bool.eq_false_iff.mpr hbefore) hreplaceable hsome)
      rw [resolve_copy hplain hnone, ih _ (hless (Nat.le_refl _))
        (fun name hmem hstands => h name hmem (.later hplain hstands)) rfl]

/-! ## Quoted texts -/

/-- `Quotes n text`: a text with `n` quoted texts, each of them closed, that are in no comment. -/
inductive Quotes : Nat → List Char → Prop
  | nil : Quotes 0 []
  | plain {n : Nat} {c : Char} {rest : List Char} : Plain c → Quotes n rest →
    Quotes n (c :: rest)
  | quote {n : Nat} {c : Char} {used rest : List Char} : IsQuote c → used.getLast? = some c →
    (∀ ds, literalEnd c (used ++ ds) = (used, ds)) → Quotes n rest →
    Quotes (n + 1) (c :: (used ++ rest))
  | comment {n : Nat} {comment rest : List Char} : (∀ c ∈ comment, c ≠ '\n') →
    (∀ c ∈ rest.head?, c = '\n') → Quotes n rest → Quotes n ('#' :: (comment ++ rest))

theorem Plain.not_comment : ¬ Plain '#' :=
  fun h => h.noComment rfl

theorem not_isQuote_comment : ¬ IsQuote '#' := by
  rintro (h | h) <;> exact absurd h (by decide)

/-- A comment ends where its line does, and leaves the rest. -/
theorem takeWhile_comment {comment rest : List Char} (hcomment : ∀ c ∈ comment, c ≠ '\n')
    (hrest : ∀ c ∈ rest.head?, c = '\n') : (comment ++ rest).takeWhile (· != '\n') = comment ∧
      (comment ++ rest).dropWhile (· != '\n') = rest := by
  have hinside : ∀ c ∈ comment, (c != '\n') = true := fun c hc => bne_iff_ne.mpr (hcomment c hc)
  have hstops : Number.Stops (· != '\n') rest := fun c hc => by rw [hrest c hc]; rfl
  exact ⟨Number.takeWhile_append_stop hinside hstops, Number.dropWhile_append_stop hinside hstops⟩

theorem Quotes.of_plain {n : Nat} {c : Char} {rest : List Char} (h : Quotes n (c :: rest))
    (hc : Plain c) : Quotes n rest := by
  cases h with
  | plain _ h => exact h
  | quote hquote => exact absurd hquote hc.noQuote
  | comment => exact absurd rfl hc.noComment

theorem Quotes.plains {n : Nat} {used rest : List Char} (hused : ∀ c ∈ used, Plain c) :
    Quotes n (used ++ rest) ↔ Quotes n rest := by
  induction used with
  | nil => exact Iff.rfl
  | cons c used ih =>
    obtain ⟨hc, hused⟩ := List.forall_mem_cons.mp hused
    rw [List.cons_append, ← ih hused]
    exact ⟨fun h => h.of_plain hc, .plain hc⟩

/-- The quoted texts of a text can be counted in one way only. -/
theorem Quotes.unique {n m : Nat} (h : Quotes n text) (hother : Quotes m text) : n = m := by
  induction h generalizing m with
  | nil =>
    cases hother
    rfl
  | plain hc _ ih => exact ih (hother.of_plain hc)
  | @quote n c used rest hc _ hliteral _ ih =>
    generalize htext : used ++ rest = text at hother
    cases hother with
    | plain hplain => exact absurd hc hplain.noQuote
    | @quote m _ others after _ _ hagain hafter =>
      have hsame := hliteral rest
      rw [htext, hagain after] at hsame
      obtain ⟨-, rfl⟩ := Prod.mk.inj hsame
      rw [ih hafter]
    | comment => exact absurd hc not_isQuote_comment
  | @comment n comment rest hcomment hrest _ ih =>
    generalize htext : comment ++ rest = text at hother
    cases hother with
    | plain hplain => exact absurd hplain Plain.not_comment
    | quote hc => exact absurd hc not_isQuote_comment
    | @comment _ others after hothers hafter hquotes =>
      have hsame := (takeWhile_comment hcomment hrest).2
      rw [htext, (takeWhile_comment hothers hafter).2] at hsame
      exact ih (hsame ▸ hquotes)

/-- A look-up is one more quoted text. -/
theorem Quotes.lookup (key : String) {n : Nat} {rest : List Char} (h : Quotes n rest) :
    Quotes (n + 1) ((Expr.lookupText key).toList ++ rest) := by
  have hquote : IsQuote '"' := .inl rfl
  obtain ⟨used, hused, hlast, hagain⟩ := Expr.Lexer.scanString_split hquote
    (Expr.Lexer.scanString_escape key.toList (']' :: rest))
  have hname : ∀ c ∈ Expr.sourcesName.toList, Plain c :=
    fun c hc => .of_isNamePart (List.all_eq_true.mp rfl c hc)
  have htext : (Expr.lookupText key).toList ++ rest = Expr.sourcesName.toList
      ++ '[' :: '"' :: (key.toList.flatMap Expr.escapeChar ++ '"' :: ']' :: rest) := by
    simp [Expr.lookupText, Expr.quoteText]
  have hclosed : Quotes n (']' :: rest) := .plain (by decide) h
  rw [htext, Quotes.plains hname, hused]
  exact .plain (by decide) (.quote hquote hlast (fun ds => (hagain ds).2) hclosed)

/-! ## Standing names and quoted texts -/

/-- A name without quotes and marks of comments, that does not start with a line end. Its place in a
text takes part in no quoted text and ends no comment. -/
structure Unquoted (name : List Char) : Prop where
  plain : ∀ c ∈ name, Plain c
  noLine : name.head? ≠ some '\n'

/-- A name that stands in a text that starts with a quoted one stands after it. -/
theorem Stands.of_quote {c : Char} {rest : List Char} (h : Stands name before (c :: rest))
    (hc : IsQuote c) :
    Stands name ((literalEnd c rest).1.getLast?.or (some c)) (literalEnd c rest).2 := by
  cases h with
  | here hplain => exact absurd hc hplain.noQuote
  | later hplain => exact absurd hc hplain.noQuote
  | quote _ h => exact h
  | comment => exact absurd hc not_isQuote_comment

theorem Stands.of_comment {rest : List Char} (h : Stands name before ('#' :: rest)) :
    Stands name ((rest.takeWhile (· != '\n')).getLast?.or (some '#'))
      (rest.dropWhile (· != '\n')) := by
  cases h with
  | here hplain => exact absurd hplain Plain.not_comment
  | later hplain => exact absurd hplain Plain.not_comment
  | quote hc => exact absurd hc not_isQuote_comment
  | comment h => exact h

theorem Stands.of_plain {c : Char} {rest : List Char} (h : Stands name before (c :: rest))
    (hc : Plain c) (hnone : before.any continuesName = true ∨ ¬ (isReplaceable name = true ∧
      (referenceAt? name (c :: rest)).isSome = true)) : Stands name (some c) rest := by
  cases h with
  | here _ hbefore hreplaceable hsome =>
    rcases hnone with hnone | hnone
    · cases hbefore.symm.trans hnone
    · exact absurd ⟨hreplaceable, hsome⟩ hnone
  | later _ h => exact h
  | quote hquote => exact absurd hquote hc.noQuote
  | comment => exact absurd hc Plain.not_comment

/-- No name starts with a line end, which therefore still ends a comment before it. -/
theorem head_resolve_line (hnames : ∀ name ∈ names, Unquoted name) {rest : List Char}
    (hrest : ∀ c ∈ rest.head?, c = '\n') :
    ∀ c ∈ (resolve names before rest).head?, c = '\n' := by
  cases rest with
  | nil =>
    rw [resolve_nil]
    exact hrest
  | cons c rest =>
    obtain rfl := hrest c rfl
    have hnone : longestReference names ('\n' :: rest) = none :=
      longestReference_of_head fun name hmem _ => (hnames name hmem).noLine
    rw [resolve_copy ⟨by decide, by decide⟩ (.inr hnone)]
    exact hrest

/-- `Grows names before n text`: with look-ups in it, a text has no fewer than `n` quoted texts,
and more if a name stands in it. -/
def Grows (names : List (List Char)) (before : Option Char) (n : Nat) (text : List Char) : Prop :=
  ∃ m, Quotes m (resolve names before text) ∧ n ≤ m ∧
    ((∃ name ∈ names, Stands name before text) → n < m)

/-- Copying a plain character counts no quoted text, and passes no name over. -/
theorem Grows.copy {n : Nat} {c : Char} {rest : List Char} (h : Grows names (some c) n rest)
    (hc : Plain c)
    (hnone : before.any continuesName = true ∨ longestReference names (c :: rest) = none) :
    Grows names before n (c :: rest) := by
  obtain ⟨m, hm, hle, hlt⟩ := h
  refine ⟨m, ?_, hle, ?_⟩
  · rw [resolve_copy hc hnone]
    exact .plain hc hm
  · rintro ⟨name, hmem, hstands⟩
    -- nothing stands at the copied character itself
    refine hlt ⟨name, hmem, hstands.of_plain hc (hnone.imp_right ?_)⟩
    rintro hnone ⟨hreplaceable, hsome⟩
    exact longestReference_eq_none_iff.mp hnone name hmem hreplaceable hsome

/-- A look-up in the place of a name adds a quoted text. -/
theorem Grows.lookup {n : Nat} {c : Char} {rest after : List Char}
    (h : Grows names (some ']') n after) (hc : Plain c)
    (hbefore : ¬ before.any continuesName = true)
    (hfound : longestReference names (c :: rest) = some name) (hsplit : c :: rest = name ++ after) :
    Grows names before n (c :: rest) := by
  obtain ⟨m, hm, hle, -⟩ := h
  refine ⟨m + 1, ?_, Nat.le_succ_of_le hle, fun _ => Nat.lt_succ_of_le hle⟩
  rw [resolve_plain hc, if_neg hbefore, hfound]
  dsimp only
  rw [hsplit, List.drop_left]
  exact hm.lookup _

/-- Copying a quoted text counts it once, in the text and in the result. -/
theorem Grows.quote {n : Nat} {c : Char} {used rest : List Char}
    (h : Grows names (used.getLast?.or (some c)) n rest) (hc : IsQuote c)
    (hlast : used.getLast? = some c) (hliteral : ∀ ds, literalEnd c (used ++ ds) = (used, ds)) :
    Grows names before (n + 1) (c :: (used ++ rest)) := by
  obtain ⟨m, hm, hle, hlt⟩ := h
  refine ⟨m + 1, ?_, Nat.succ_le_succ hle, ?_⟩
  · rw [resolve_quote hc, hliteral]
    exact .quote hc hlast hliteral hm
  · rintro ⟨name, hmem, hstands⟩
    have hstands := hstands.of_quote hc
    rw [hliteral] at hstands
    exact Nat.succ_lt_succ (hlt ⟨name, hmem, hstands⟩)

/-- Copying a comment keeps the count: what follows it starts with the end of the line, in which
no name stands. -/
theorem Grows.comment (hnames : ∀ name ∈ names, Unquoted name) {n : Nat}
    {comment rest : List Char} (h : Grows names (comment.getLast?.or (some '#')) n rest)
    (hcomment : ∀ c ∈ comment, c ≠ '\n') (hrest : ∀ c ∈ rest.head?, c = '\n') :
    Grows names before n ('#' :: (comment ++ rest)) := by
  obtain ⟨m, hm, hle, hlt⟩ := h
  obtain ⟨htake, hdrop⟩ := takeWhile_comment hcomment hrest
  refine ⟨m, ?_, hle, ?_⟩
  · rw [resolve_comment, htake, hdrop]
    exact .comment hcomment (head_resolve_line hnames hrest) hm
  · rintro ⟨name, hmem, hstands⟩
    have hstands := hstands.of_comment
    rw [htake, hdrop] at hstands
    exact hlt ⟨name, hmem, hstands⟩

/-- Resolving keeps the quoted texts of a text and adds one for every name that it replaces. -/
theorem Quotes.grows (hnames : ∀ name ∈ names, Unquoted name) {n : Nat} (h : Quotes n text) :
    Grows names before n text := by
  -- a name may be longer than one character, and counting goes on after it
  induction hlength : text.length using Nat.strongRecOn generalizing n before text with
  | ind length ih =>
    cases h with
    | nil =>
      refine ⟨0, ?_, Nat.le_refl 0, ?_⟩
      · rw [resolve_nil]
        exact .nil
      · rintro ⟨name, -, hstands⟩
        cases hstands
    | @plain _ c rest hc h =>
      have hless : rest.length < length := by
        rw [← hlength]
        exact Nat.lt_succ_self _
      by_cases hbefore : before.any continuesName = true
      · exact (ih _ hless h rfl).copy hc (.inl hbefore)
      cases hfound : longestReference names (c :: rest) with
      | none => exact (ih _ hless h rfl).copy hc (.inr hfound)
      | some name =>
        obtain ⟨hmem, -, after, hsplit, -⟩ := longestReference_split hfound
        have hshort := length_drop_reference_le hfound
        have hquotes := Quotes.plain hc h
        rw [hsplit, List.drop_left] at hshort
        rw [hsplit, Quotes.plains (hnames name hmem).plain] at hquotes
        exact (ih _ (Nat.lt_of_le_of_lt hshort hless) hquotes rfl).lookup hc hbefore hfound hsplit
    | @quote n c used rest hc hlast hliteral h =>
      have hless : rest.length < length := by
        rw [← hlength, List.length_cons, List.length_append]
        omega
      exact (ih _ hless h rfl).quote hc hlast hliteral
    | @comment _ comment rest hcomment hrest h =>
      have hless : rest.length < length := by
        rw [← hlength, List.length_cons, List.length_append]
        omega
      exact (ih _ hless h rfl).comment hnames hcomment hrest

end

end Names

namespace Expr

open Lexer (kinds kinds_eq_cons scanToken scanToken_again skipBlanks IsQuote NumberText)
open Names (Plain Quotes)

/-! ## Quoted texts in trees -/

/-- Whether a token is a quoted text. -/
def isText : TokenKind → Bool
  | .string _ => true
  | _ => false

/-- The number of quoted texts among tokens. -/
def textCount (ts : List TokenKind) : Nat :=
  ts.countP isText

theorem textCount_text (s : String) (ts : List TokenKind) :
    textCount (.string s :: ts) = textCount ts + 1 :=
  List.countP_cons_of_pos rfl

theorem textCount_other {t : TokenKind} (h : isText t = false) (ts : List TokenKind) :
    textCount (t :: ts) = textCount ts :=
  List.countP_cons_of_neg (Bool.eq_false_iff.mp h)

mutual

/-- The number of quoted texts that an expression is written with: its constants that are texts
and the keys of its look-ups. -/
def texts : Expr → Nat
  | .literal (.str _) => 1
  | .literal _ => 0
  | .name _ => 0
  | .source _ => 1
  | .unary _ e => texts e
  | .binary _ l r => texts l + texts r
  | .chained first links => texts first + linkTexts links
  | .boolean _ l r => texts l + texts r
  | .conditional body test orelse => texts body + (texts test + texts orelse)
  | .call _ args => argTexts args

/-- The quoted texts of the operands of a chain. -/
def linkTexts : List (CompareOp × Expr) → Nat
  | [] => 0
  | (_, e) :: links => texts e + linkTexts links

/-- The quoted texts of arguments. -/
def argTexts : List Expr → Nat
  | [] => 0
  | e :: args => texts e + argTexts args

end

theorem Signs.not_text {t : TokenKind} {op : UnaryOp} (h : Signs t op) : isText t = false := by
  cases h <;> rfl

theorem Compares.not_text {t : TokenKind} {op : CompareOp} (h : Compares t op) :
    isText t = false := by
  cases h <;> rfl

theorem Joins.not_text {c : Chain} {t : TokenKind} {join : Expr → Expr → Expr}
    (h : Joins c t join) : isText t = false := by
  cases h <;> rfl

/-- An operation of a chain has the quoted texts of both its sides. -/
theorem Joins.texts {c : Chain} {t : TokenKind} {join : Expr → Expr → Expr} (h : Joins c t join)
    (l r : Expr) : (join l r).texts = l.texts + r.texts := by
  cases h <;> rfl

/-- The token of a constant counts if the constant is a text. -/
theorem Constant.textCount {t : TokenKind} {value : Literal} (h : Constant t value)
    (rest : List TokenKind) :
    textCount (t :: rest) = (Expr.literal value).texts + textCount rest := by
  cases h with
  | string s => exact (textCount_text s rest).trans (Nat.add_comm _ _)
  | _ => exact (textCount_other rfl rest).trans (Nat.zero_add _).symm

/-- The tokens of a dotted name have no quoted text among them. -/
theorem Dotted.textCount {name dotted : String} {ts rest : List TokenKind}
    (h : Dotted name ts dotted rest) : textCount ts = textCount rest := by
  induction h with
  | done => rfl
  | part _ ih => exact (textCount_other rfl _).trans ((textCount_other rfl _).trans ih)

mutual

/-- The quoted texts among the tokens of a phrase are those of its tree. -/
theorem Derives.textCount {p : Phrase} {n : Nat} {ts rest : List TokenKind} {e : Expr} :
    Derives p n ts e rest → textCount ts = e.texts + textCount rest
  | .plain h => h.textCount
  | .conditional hb ht ho => by
    have hbody := hb.textCount
    have htest := ht.textCount
    rw [textCount_other rfl] at hbody htest
    rw [hbody, htest, ho.textCount, texts, Nat.add_assoc, Nat.add_assoc]
  | .chain hf hl => (Derives.textCount hf).trans (Links.textCount hl)
  | .not h => (textCount_other rfl _).trans h.textCount
  | .comparison h => h.textCount
  | .single h => h.textCount
  | .compare hf hl => by rw [hf.textCount, hl.textCount, texts, Nat.add_assoc]
  | .sign hs h => (textCount_other hs.not_text _).trans h.textCount
  | .unsigned h => h.textCount
  | .base h => h.textCount
  | .pow hb he => by
    rw [hb.textCount, textCount_other rfl, he.textCount, texts, Nat.add_assoc]
  | .constant hc => hc.textCount _
  | .name hd => by rw [textCount_other rfl, hd.textCount, texts, Nat.zero_add]
  | .lookup => by
    rw [textCount_other rfl, textCount_other rfl, textCount_text, textCount_other rfl, texts,
      Nat.add_comm]
  | .call ha _ => by
    rw [textCount_other rfl, textCount_other rfl, ha.textCount, textCount_other rfl, texts]
  | .parens h => by
    rw [textCount_other rfl, h.textCount, textCount_other rfl]

/-- The links of a chain add their quoted texts to those of the expression before them. -/
theorem Links.textCount {c : Chain} {n : Nat} {left e : Expr} {ts rest : List TokenKind} :
    Links c n left ts e rest → left.texts + textCount ts = e.texts + textCount rest
  | .done => rfl
  | .link hj hr hl => by
    rw [textCount_other hj.not_text, hr.textCount, ← hl.textCount, hj.texts, Nat.add_assoc]

/-- The tokens of a comparison have the quoted texts of its operands. -/
theorem Comparisons.textCount {n : Nat} {ts rest : List TokenKind}
    {links : List (CompareOp × Expr)} :
    Comparisons n ts links rest → textCount ts = linkTexts links + textCount rest
  | .done => (Nat.zero_add _).symm
  | .link hc he hl => by
    rw [textCount_other hc.not_text, he.textCount, hl.textCount, linkTexts, Nat.add_assoc]

/-- The tokens of arguments have the quoted texts of these. -/
theorem Arguments.textCount {n : Nat} {ts rest : List TokenKind} {args : List Expr} :
    Arguments n ts args rest → textCount ts = argTexts args + textCount rest
  | .done => (Nat.zero_add _).symm
  | .last he => by rw [he.textCount, argTexts, argTexts, Nat.add_zero]
  | .more he ha => by
    rw [he.textCount, textCount_other rfl, ha.textCount, argTexts, Nat.add_assoc]

end

/-! ## Quoted texts in texts -/

theorem ofWord_not_text (w : String) : isText (.ofWord w) = false := by
  unfold TokenKind.ofWord
  split
  case h_9 =>
    split
    · rfl
    · rfl
  all_goals rfl

theorem scanNumber_not_text (cs : List Char) : isText (Lexer.scanNumber cs).1 = false := by
  have hnumber := Lexer.scanNumber_isNumber cs
  revert hnumber
  cases (Lexer.scanNumber cs).1 with
  | string s => exact False.elim
  | _ => exact fun _ => rfl

theorem not_text_of_isSign {kind : TokenKind} (h : Lexer.IsSign kind) : isText kind = false := by
  cases kind with
  | string s => exact h.elim
  | _ => rfl

theorem scanName_not_text (c : Char) (cs : List Char) :
    isText (Lexer.scanName c cs).1 = false := by
  unfold Lexer.scanName
  dsimp only
  split
  · rfl
  · exact ofWord_not_text _

/-- Only a quote starts a token that is a quoted text. -/
theorem scanToken_not_text {c : Char} (cs : List Char) (hc : ¬ IsQuote c) :
    isText (scanToken c cs).1 = false := by
  cases Lexer.lead c with
  | sign hscan _ hsign =>
    rw [hscan]
    exact not_text_of_isSign hsign
  | pair hscan _ _ hlonger hshorter =>
    rw [hscan]
    exact not_text_of_isSign (Lexer.either_isSign hlonger hshorter cs)
  | point hpoint =>
    subst hpoint
    rcases Lexer.scanToken_point_cases cs with hscan | hscan
    · rw [hscan]
      exact scanNumber_not_text _
    · rw [hscan]
      rfl
  | quote hquote => exact absurd hquote hc
  | digit hdigit =>
    rw [Lexer.scanToken_digit hdigit]
    exact scanNumber_not_text _
  | word hname =>
    rw [Lexer.scanToken_nameStart hname]
    exact scanName_not_text c cs
  | unexpected hscan =>
    rw [hscan]
    rfl

/-- Blanks and comments hold no quoted text. -/
theorem quotes_of_skipBlanks {n : Nat} {cs : List Char} (h : Quotes n (skipBlanks cs)) :
    Quotes n cs := by
  induction cs using Lexer.skipBlanks_rec with
  | start cs hskip => rwa [hskip] at h
  | blank c rest hblank ih =>
    rw [Lexer.skipBlanks_blank hblank] at h
    have hc := List.mem_append_right Lexer.signs (Lexer.isBlank_iff_mem_blanks.mp hblank)
    exact .plain (Names.plain_of_mem hc).1 (ih h)
  | comment rest ih =>
    rw [Lexer.skipBlanks_hash] at h
    obtain ⟨hinside, hline⟩ := Lexer.comment_split rest
    have hclosed := Quotes.comment hinside hline (ih h)
    rwa [List.takeWhile_append_dropWhile] at hclosed

/-- The text of a number has neither quotes nor comments. -/
theorem plain_of_numberText {text : List Char} (h : NumberText text) : ∀ c ∈ text, Plain c := by
  have hdigits {c : Char} (hc : c.isDigit = true ∨ c = '.') : Plain c :=
    (Names.Apart.plain (.inr hc)).1
  cases h with
  | plain h =>
    intro c hc
    exact hdigits (h c hc)
  | @exponent plain tail mark h hmark htail =>
    intro c hc
    rcases List.mem_append.mp hc with hc | hc
    · exact hdigits (h c hc)
    rcases List.mem_cons.mp hc with rfl | hc
    · exact .of_isNamePart (Lexer.isNamePart_of_isNameStart hmark.isNameStart)
    · rcases htail c hc with hdigit | rfl | rfl
      · exact hdigits (.inl hdigit)
      · decide
      · decide

/-- The quoted texts of a text are tokens. -/
theorem quotes_kinds {ts : List TokenKind} (hts : ∀ t ∈ ts, Admissible t) {cs : List Char}
    (hkinds : kinds cs = ts) : Quotes (textCount ts) cs := by
  induction ts generalizing cs with
  | nil =>
    have hskip := Lexer.skipBlanks_of_kinds_nil hkinds
    refine quotes_of_skipBlanks ?_
    rw [hskip]
    exact .nil
  | cons t ts ih =>
    obtain ⟨ht, hts⟩ := List.forall_mem_cons.mp hts
    obtain ⟨c, rest, after, hskip, hscan, hafter⟩ := kinds_eq_cons hkinds
    obtain ⟨used, rfl, hshape, -⟩ := scanToken_again hscan ht
    have hrest : Quotes (textCount ts) after := ih hts hafter
    refine quotes_of_skipBlanks ?_
    rw [hskip]
    -- a token that is no quoted text has only plain characters
    have hplain (hchars : ∀ d ∈ c :: used, Plain d) :
        Quotes (textCount (t :: ts)) (c :: (used ++ after)) := by
      have hother : isText t = false := by
        have hkind := scanToken_not_text (used ++ after) (hchars c List.mem_cons_self).noQuote
        rwa [hscan] at hkind
      rw [textCount_other hother, ← List.cons_append, Quotes.plains hchars]
      exact hrest
    cases hshape with
    | sign _ hsigns =>
      exact hplain fun d hd => (Names.plain_of_mem (List.mem_append_left _ (hsigns d hd))).1
    | point => exact hplain (List.forall_mem_singleton.mpr (by decide))
    | number _ _ htext _ => exact hplain (plain_of_numberText htext)
    | string hc hlast hliteral =>
      rw [textCount_text]
      exact .quote hc hlast hliteral hrest
    | word hc hparts _ =>
      refine hplain (List.forall_mem_cons.mpr ⟨?_, fun d hd => .of_isNamePart (hparts d hd)⟩)
      exact .of_isNamePart (Lexer.isNamePart_of_isNameStart hc)

/-- Every text that is read as a tree has the quoted texts of the tree. -/
theorem quotes_of_parse {source : String} {e : Expr} (h : parse source = .ok e) :
    Quotes e.texts source.toList := by
  obtain ⟨n, -, hderives⟩ := parseTokens_eq_ok_iff.mp h
  rw [Lexer.kinds_tokenize] at hderives
  have hquotes := quotes_kinds (Derivable.admissible ⟨n, hderives⟩) rfl
  rwa [hderives.textCount] at hquotes

/-- Where a name stands, a text is not read alike before and after resolving. -/
theorem parse_resolve_ne {known : List String} {source : String} {e : Expr}
    (hknown : ∀ name ∈ known, Names.Unquoted name.toList) (h : parse source = .ok e)
    {name : String} (hmem : name ∈ known) (hstands : Names.Stands name.toList none source.toList) :
    parse (Names.resolveNames known source) ≠ .ok e := by
  intro hresolved
  have hnames : ∀ name ∈ known.map String.toList, Names.Unquoted name := by
    intro name hname
    obtain ⟨name, hmem, rfl⟩ := List.mem_map.mp hname
    exact hknown name hmem
  have hgrows : Names.Grows (known.map String.toList) none e.texts source.toList :=
    (quotes_of_parse h).grows hnames
  obtain ⟨m, hm, -, hlt⟩ := hgrows
  have hquotes := quotes_of_parse hresolved
  rw [Names.resolveNames, String.toList_ofList] at hquotes
  have hmore := hlt ⟨name.toList, List.mem_map_of_mem hmem, hstands⟩
  exact absurd (hquotes.unique hm) (Nat.ne_of_lt hmore)

end Expr

end RowSignals
