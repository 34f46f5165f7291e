import RowSignals.Proofs.Expr.LongestNames
import RowSignals.Proofs.Expr.Standing
import RowSignals.Proofs.Expr.Tiling

/-!
# Quoted texts

A quoted text is read twice: by the lexer, which knows the escapes, and before that by the search
for bare names, which takes along whatever follows a backslash. Both find the same end of every
text that the lexer finds closed.

* `literalEnd_of_scanToken`: the text of a string ends where the quoted text does.
* `Scanned`, `scanned_tokensFrom`: every token is what is scanned at its place.
* `Names.resolve_apart`, `Names.resolve_literal`: a quoted text is copied, and separates what
  stands before and after it.
* `literalEnd_of_string_token`: the two ends of a string.
-/

namespace RowSignals

namespace Expr.Lexer

/-! ## Strings -/

/-- Only a quote starts a string, whose text ends where the quoted text does. -/
theorem literalEnd_of_scanToken {c : Char} {cs rest : List Char} {text : String}
    (h : scanToken c cs = (.string text, rest)) :
    IsQuote c ∧ ∃ used, cs = used ++ rest ∧ used.getLast? = some c ∧
      Names.literalEnd c (used ++ rest) = (used, rest) := by
  have hquote : IsQuote c := by
    by_contra hquote
    have htext := scanToken_not_text cs hquote
    rw [h] at htext
    cases htext
  rw [scanToken_quote hquote] at h
  split at h
  · rename_i chars after hscan
    cases h
    obtain ⟨used, hsplit, hlast, hagain⟩ := scanString_split hquote hscan
    exact ⟨hquote, used, hsplit, hlast, (hagain rest).2⟩
  · cases h

/-! ## Tokens at their places -/

/-- `Scanned source t`: the token is what is scanned at its place in the text. -/
def Scanned (source : List Char) (t : Token) : Prop :=
  ∃ front c used back, source = front ++ c :: (used ++ back) ∧
    scanToken c (used ++ back) = (t.kind, back) ∧
    t.span = ⟨.behind front, String.utf8Len (front ++ c :: used)⟩

/-- The tokens of a text are what the scanner finds at their places. By induction on the fuel,
with the text before the place. -/
theorem scanned_tokensFrom (fuel : Nat) (before cs : List Char) :
    ∀ t ∈ (tokensFrom fuel (.behind before) cs).tokens, Scanned (before ++ cs) t := by
  induction fuel generalizing before cs with
  | zero =>
    intro t ht
    rw [tokensFrom.eq_def] at ht
    cases ht
  | succ fuel ih =>
    rcases tokensFrom_succ fuel before cs with
      ⟨-, htokens⟩ | ⟨gap, c, used, rest, kind, rfl, -, hscan, -, htokens⟩
    · rw [htokens]
      exact List.forall_mem_nil _
    · rw [htokens]
      refine List.forall_mem_cons.mpr ⟨?_, ?_⟩
      · refine ⟨before ++ gap, c, used, rest, ?_, hscan, rfl⟩
        rw [List.append_assoc]
      · intro t ht
        have htoken := ih (before ++ gap ++ c :: used) rest t ht
        simpa only [List.append_assoc, List.cons_append] using htoken

theorem scanned_tokenize {source : String} {t : Token} (h : t ∈ (tokenize source).tokens) :
    Scanned source.toList t :=
  scanned_tokensFrom _ [] source.toList t h

end Expr.Lexer

namespace Names

open Expr.Lexer (IsQuote tokenize literalEnd_of_scanToken scanned_tokenize)

theorem byteCount_eq_utf8Len (cs : List Char) : byteCount cs = String.utf8Len cs := by
  induction cs with
  | nil => rfl
  | cons c cs ih =>
    have hfirst : byteCount [c] = c.utf8Size := Nat.zero_add _
    rw [← List.singleton_append, byteCount_append, hfirst, ih, List.singleton_append,
      String.utf8Len_cons, Nat.add_comm]

/-! ## Quoted texts in a text -/

section
variable {names : List (List Char)} {before : Option Char} {c : Char}

/-- After a character that continues no name, a text is resolved as from its start. -/
theorem resolve_apart (hc : continuesName c = false) (text : List Char) :
    resolve names (some c) text = resolve names none text := by
  cases text with
  | nil => rw [resolve_nil, resolve_nil]
  | cons d rest =>
    by_cases hquote : IsQuote d
    · rw [resolve_quote hquote, resolve_quote hquote]
    by_cases hcomment : d = '#'
    · rw [hcomment, resolve_comment, resolve_comment]
    have hstops : ¬ (some c).any continuesName = true := Bool.eq_false_iff.mp hc
    have hnone : ¬ (none : Option Char).any continuesName = true := Bool.false_ne_true
    rw [resolve_plain ⟨hquote, hcomment⟩, resolve_plain ⟨hquote, hcomment⟩, if_neg hstops,
      if_neg hnone]

theorem not_continuesName_of_isQuote (hc : IsQuote c) : continuesName c = false := by
  rcases hc with rfl | rfl
  · decide
  · decide

/-- A quoted text that is closed is copied, and the text after it is resolved as from its start. -/
theorem resolve_literal (hc : IsQuote c) {used back : List Char} (hlast : used.getLast? = some c)
    (hliteral : literalEnd c (used ++ back) = (used, back)) :
    resolve names before (c :: (used ++ back)) = c :: used ++ resolve names none back := by
  rw [resolve_quote hc, hliteral]
  dsimp only
  rw [hlast]
  show c :: (used ++ resolve names (some c) back) = _
  rw [resolve_apart (not_continuesName_of_isQuote hc), List.cons_append]

end

/-- Where a string stands in a text, the quoted text that the search for names finds has exactly
the bytes of the string. So nothing in it is replaced, whatever the known names and whatever stands
before it, and right behind it the search goes on as at the start of a text. -/
theorem literalEnd_of_string_token {source : String} {front rest : List Char} {quote : Char}
    (hsource : source.toList = front ++ quote :: rest) {t : Token}
    (ht : t ∈ (tokenize source).tokens) (hstart : t.span.start.offset = byteCount front)
    {text : String} (hkind : t.kind = .string text) :
    let literal := quote :: (literalEnd quote rest).1
    let after := (literalEnd quote rest).2
    t.span.stop = t.span.start.offset + byteCount literal ∧
    source.toList = front ++ literal ++ after ∧
    ∀ names before, resolve names before (quote :: rest)
      = literal ++ resolve names none after := by
  intro literal after
  obtain ⟨start, c, used, back, hplace, hscan, hspan⟩ := scanned_tokenize ht
  have hfront : front <+: source.toList := hsource ▸ List.prefix_append _ _
  have hbefore : start <+: source.toList := hplace ▸ List.prefix_append _ _
  have hbytes : byteCount start = byteCount front := by
    rw [← hstart, hspan, byteCount_eq_utf8Len]
    rfl
  -- so the token starts where the text goes on with the quote
  obtain rfl := eq_of_byteCount_eq hbefore hfront hbytes
  obtain ⟨rfl, rfl⟩ := List.cons.inj (List.append_cancel_left (hsource.symm.trans hplace))
  rw [hkind] at hscan
  obtain ⟨hquote, text, hsplit, hlast, hliteral⟩ := literalEnd_of_scanToken hscan
  obtain rfl := List.append_cancel_right hsplit
  have hused : literal = quote :: used := congrArg (fun split => quote :: split.1) hliteral
  have hback : after = back := congrArg Prod.snd hliteral
  rw [hused, hback]
  refine ⟨?_, ?_, ?_⟩
  · rw [hspan]
    show String.utf8Len (start ++ quote :: used) = String.utf8Len start + byteCount (quote :: used)
    rw [byteCount_eq_utf8Len, String.utf8Len_append]
  · rw [hsource, List.append_assoc, List.cons_append]
  · exact fun names before => resolve_literal hquote hlast hliteral

/-- The lexer knows the escape of the other quote and does not know `\x`. The name inside the
quoted text stays, and the one after it is replaced. -/
theorem literalEnd_of_string_token_escapes :
    let rest := "é\\'b\\x b\" + b".toList
    let t : Token := ⟨.string "é'b\\x b", ⟨⟨4, 1, 5⟩, 15⟩⟩
    t ∈ (tokenize "b + \"é\\'b\\x b\" + b").tokens ∧
    byteCount ('"' :: (literalEnd '"' rest).1) = 11 ∧
    resolve [['b']] none ('"' :: rest) = "\"é\\'b\\x b\" + SOURCES[\"b\"]".toList := by
  intro rest t
  have htoken : (tokenize "b + \"é\\'b\\x b\" + b").tokens[2]? = some t := by cbv
  have ht : t ∈ (tokenize "b + \"é\\'b\\x b\" + b").tokens := List.mem_of_getElem? htoken
  have hsource : "b + \"é\\'b\\x b\" + b".toList = "b + ".toList ++ '"' :: rest := by
    decide +kernel
  have hliteral : literalEnd '"' rest = ("é\\'b\\x b\"".toList, " + b".toList) := by
    decide +kernel
  have hafter : resolve [['b']] none " + b".toList = " + SOURCES[\"b\"]".toList := by
    decide +kernel
  obtain ⟨hstop, -, hresolve⟩ := literalEnd_of_string_token hsource ht rfl rfl
  refine ⟨ht, Nat.add_left_cancel hstop.symm, ?_⟩
  rw [hresolve, hliteral]
  dsimp only
  rw [hafter]
  decide +kernel

end Names

end RowSignals
