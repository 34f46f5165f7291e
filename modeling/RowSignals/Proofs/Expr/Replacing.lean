import RowSignals.Proofs.Expr.Explicit
import RowSignals.Proofs.Expr.Scanning
import RowSignals.Proofs.Expr.Spelling

/-!
# Replacing bare names in a text

What happens at each character of a text whose known names are words joined by points.

* `resolve`: the resolved text without fuel, with one equation for each way to go on:
  `resolve_nil`, `resolve_quote`, `resolve_comment`, `resolve_plain`.
* `Dottable`: the names considered here. At most one of them ends at a place, so that the longest
  known name is the only one: `longestReference_eq_some`.
* `resolve_skipBlanks`, `resolve_number`, `resolve_token`: blanks and comments are copied, and so is
  a token that is no known name.
-/

namespace RowSignals.Names

open Expr.Lexer (IsQuote NumberText TokenShape signs blanks isNameStart isNamePart
  isBlank_iff_mem_blanks skipBlanks skipBlanks_blank skipBlanks_comment skipBlanks_hash
  skipBlanks_rec comment_split kinds kinds_blank kinds_congr StartsAlike)
open Number (Stops)

/-! ## Resolving without fuel -/

theorem literalEnd_length_le (quote : Char) (cs : List Char) :
    (literalEnd quote cs).2.length ≤ cs.length := by
  fun_induction literalEnd quote cs with
  | case1 => exact Nat.le_refl _
  | _ => grind

/-- A quoted text and what is left after it are the text before the cut. -/
theorem literalEnd_append (quote : Char) (cs : List Char) :
    (literalEnd quote cs).1 ++ (literalEnd quote cs).2 = cs := by
  fun_induction literalEnd quote cs with
  | case1 => rfl
  | case2 => rfl
  | case3 e after text rest heq ih =>
    rw [heq] at ih
    exact congrArg ('\\' :: e :: ·) ih
  | case4 => rfl
  | case5 => rfl
  | case6 c rest _ _ _ text after heq ih =>
    rw [heq] at ih
    exact congrArg (c :: ·) ih

theorem foldl_longer_mem (name : List Char) (others : List (List Char)) :
    others.foldl longer name ∈ name :: others := by
  induction others generalizing name with
  | nil => exact List.mem_cons_self
  | cons other others ih =>
    have hlonger : longer name other = name ∨ longer name other = other := by
      unfold longer
      split
      · exact .inr rfl
      · exact .inl rfl
    rw [List.foldl_cons]
    rcases hlonger with h | h
    · rw [h]
      rcases List.mem_cons.mp (ih name) with hmem | hmem
      · rw [hmem]
        exact List.mem_cons_self
      · exact List.mem_cons_of_mem _ (List.mem_cons_of_mem _ hmem)
    · rw [h]
      exact List.mem_cons_of_mem _ (ih other)

/-- What is found is a name that may be replaced where it stands. -/
theorem longestReference_mem {names : List (List Char)} {text name : List Char}
    (h : longestReference names text = some name) :
    name ∈ names ∧ isReplaceable name = true ∧ (referenceAt? name text).isSome = true := by
  unfold longestReference at h
  split at h
  · cases h
  · rename_i first others hfilter
    cases h
    have hmem := foldl_longer_mem first others
    rw [← hfilter, List.mem_filter, Bool.and_eq_true] at hmem
    exact hmem

/-- No name is found where none that may be replaced is referred to. -/
theorem longestReference_eq_none_iff {names : List (List Char)} {text : List Char} :
    longestReference names text = none ↔
      ∀ name ∈ names, isReplaceable name = true → ¬ (referenceAt? name text).isSome = true := by
  have hfilter : longestReference names text = none ↔
      names.filter (fun name => isReplaceable name && (referenceAt? name text).isSome) = [] := by
    unfold longestReference
    split
    · rename_i hnone
      exact iff_of_true rfl hnone
    · rename_i hsome
      rw [hsome]
      exact iff_of_false (by simp) (by simp)
  rw [hfilter, List.filter_eq_nil_iff]
  simp only [Bool.and_eq_true, not_and]

/-- A name that is found takes at least one character. -/
theorem length_drop_reference_le {names : List (List Char)} {c : Char} {rest name : List Char}
    (h : longestReference names (c :: rest) = some name) :
    ((c :: rest).drop name.length).length ≤ rest.length := by
  have hne : name ≠ [] := by
    rintro rfl
    cases (longestReference_mem h).2.1
  have hpos := List.length_pos_iff.mpr hne
  rw [List.length_drop, List.length_cons]
  omega

/-- Fuel beyond the length of a text changes nothing. -/
theorem resolveFrom_fuel {names : List (List Char)} {fuel more : Nat} {before : Option Char}
    {text : List Char} (hfuel : text.length ≤ fuel) (hmore : text.length ≤ more) :
    resolveFrom fuel names before text = resolveFrom more names before text := by
  induction fuel generalizing more before text with
  | zero =>
    obtain rfl := List.eq_nil_of_length_eq_zero (Nat.le_zero.mp hfuel)
    rw [resolveFrom.eq_def, resolveFrom.eq_def]
  | succ fuel ih =>
    cases text with
    | nil => rw [resolveFrom.eq_def, resolveFrom.eq_def]
    | cons c rest =>
      obtain ⟨more, rfl⟩ : ∃ n, more = n + 1 :=
        Nat.exists_eq_succ_of_ne_zero (Nat.ne_of_gt (Nat.lt_of_lt_of_le (Nat.succ_pos _) hmore))
      have hrest {before : Option Char} {others : List Char} (h : others.length ≤ rest.length) :
          resolveFrom fuel names before others = resolveFrom more names before others :=
        ih (Nat.le_trans h (Nat.le_of_succ_le_succ hfuel))
          (Nat.le_trans h (Nat.le_of_succ_le_succ hmore))
      simp only [resolveFrom]
      rw [hrest (literalEnd_length_le c rest), hrest (List.dropWhile_suffix _).length_le,
        hrest (Nat.le_refl _)]
      cases hname : longestReference names (c :: rest) with
      | none => rfl
      | some name =>
        dsimp only
        rw [hrest (length_drop_reference_le hname)]

/-- A text with explicit look-ups, after the character `before`. -/
def resolve (names : List (List Char)) (before : Option Char) (text : List Char) : List Char :=
  resolveFrom text.length names before text

section
variable {names : List (List Char)} {before : Option Char} {c : Char}

theorem resolve_nil : resolve names before [] = [] := by
  rw [resolve, resolveFrom.eq_def]

theorem resolve_quote (hc : IsQuote c) (rest : List Char) : resolve names before (c :: rest)
    = c :: ((literalEnd c rest).1
      ++ resolve names ((literalEnd c rest).1.getLast?.or (some c)) (literalEnd c rest).2) := by
  have hquote := Expr.Lexer.quote_iff.mpr hc
  rw [resolve, List.length_cons, resolveFrom.eq_def]
  dsimp only
  rw [if_pos hquote, resolve, resolveFrom_fuel (literalEnd_length_le c rest) (Nat.le_refl _)]

theorem resolve_comment (rest : List Char) : resolve names before ('#' :: rest)
    = '#' :: (rest.takeWhile (· != '\n')
      ++ resolve names ((rest.takeWhile (· != '\n')).getLast?.or (some '#'))
        (rest.dropWhile (· != '\n'))) := by
  rw [resolve, List.length_cons, resolveFrom.eq_def]
  dsimp only
  rw [if_neg (by decide), if_pos rfl, resolve,
    resolveFrom_fuel (List.dropWhile_suffix _).length_le (Nat.le_refl _)]

/-- A character that is neither a quote nor opens a comment. -/
structure Plain (c : Char) : Prop where
  noQuote : ¬ IsQuote c
  noComment : c ≠ '#'

instance (c : Char) : Decidable (Plain c) :=
  decidable_of_iff (¬ IsQuote c ∧ c ≠ '#') ⟨fun h => ⟨h.1, h.2⟩, fun h => ⟨h.noQuote, h.noComment⟩⟩

/-- No character of a name opens a quoted text or a comment. -/
theorem Plain.of_isNamePart (h : isNamePart c = true) : Plain c where
  noQuote := by
    rintro (rfl | rfl)
    · exact absurd h (by decide)
    · exact absurd h (by decide)
  noComment := by
    rintro rfl
    exact absurd h (by decide)

/-- A plain character is copied, unless a name is found there that does not go on with what
stands before; then the look-up of the name is put in its place. -/
theorem resolve_plain (hc : Plain c) (rest : List Char) : resolve names before (c :: rest)
    = if before.any continuesName then c :: resolve names (some c) rest
      else match longestReference names (c :: rest) with
        | some name => (Expr.lookupText (String.ofList name)).toList
          ++ resolve names (some ']') ((c :: rest).drop name.length)
        | none => c :: resolve names (some c) rest := by
  have hquote := Expr.Lexer.quote_iff.not.mpr hc.noQuote
  rw [resolve, List.length_cons, resolveFrom.eq_def]
  dsimp only
  rw [if_neg hquote, if_neg hc.noComment]
  split
  · rfl
  · cases hname : longestReference names (c :: rest) with
    | none => rfl
    | some name =>
      dsimp only
      rw [resolve, resolveFrom_fuel (length_drop_reference_le hname) (Nat.le_refl _)]

end

theorem lookupText_eq_cons (key : String) :
    ∃ cs, (Expr.lookupText key).toList = 'S' :: cs := by
  have hname : Expr.sourcesName.toList = ['S', 'O', 'U', 'R', 'C', 'E', 'S'] := rfl
  refine ⟨['O', 'U', 'R', 'C', 'E', 'S'] ++ "[".toList ++ (Expr.quoteText key).toList
    ++ "]".toList, ?_⟩
  rw [Expr.lookupText, String.toList_append, String.toList_append, String.toList_append, hname]
  rfl

/-! ## Names of words and points -/

/-- The characters of words joined by points. -/
def inName (c : Char) : Bool :=
  isNamePart c || c == '.'

/-- A name of words joined by points, the first of which is no keyword. -/
structure Dottable (name : List Char) : Prop where
  start : ∃ c cs, name = c :: cs ∧ isNameStart c = true
  chars : ∀ c ∈ name, inName c = true
  noKeyword : String.ofList (name.takeWhile isNamePart) ∉ Expr.keywords

/-- A character of a word goes on with a name before it. -/
theorem continuesName_of_isNamePart {c : Char} (h : isNamePart c = true) :
    continuesName c = true := by
  rcases (Bool.or_eq_true _ _).mp h with h | h
  · have hascii := Expr.Lexer.toNat_of_isNamePart ((Bool.or_eq_true _ _).mpr (.inl h))
    have halpha : Text.isAlphanumeric c = true := (if_pos hascii.2).trans h
    rw [continuesName, halpha]
    rfl
  · rw [continuesName, h, Bool.or_true]
    rfl

theorem continuesName_of_inName {c : Char} (h : inName c = true) : continuesName c = true := by
  rcases (Bool.or_eq_true _ _).mp h with h | h
  · exact continuesName_of_isNamePart h
  · rw [continuesName, h, Bool.or_true]

/-- Where no character goes on with a name none is in one. -/
theorem stops_inName {cs : List Char} (h : Stops continuesName cs) : Stops inName cs := by
  intro c hc
  by_contra hname
  have hcontinues := continuesName_of_inName (Bool.not_eq_false _ ▸ hname)
  cases (h c hc).symm.trans hcontinues

/-- A name may end in front of a text, without being called there. -/
structure Ends (after : List Char) : Prop where
  noName : Stops continuesName after
  noCall : (Text.trimStart after).head? ≠ some '('

theorem stripStart?_eq_some_iff {start cs after : List Char} :
    Text.stripStart? start cs = some after ↔ cs = start ++ after := by
  fun_induction Text.stripStart? start cs with
  | case1 cs =>
    constructor
    · rintro ⟨rfl⟩
      rfl
    · rintro rfl
      rfl
  | case2 p ps => exact ⟨nofun, nofun⟩
  | case3 ps c cs ih => rw [ih, List.cons_append, List.cons.injEq, and_iff_right rfl]
  | case4 p ps c cs hne =>
    refine ⟨nofun, ?_⟩
    intro h
    rw [List.cons_append, List.cons.injEq] at h
    exact absurd h.1.symm hne

/-- A name stands in front of a text where the text goes on with something else. -/
theorem referenceAt?_eq_some_iff {name text after : List Char} :
    referenceAt? name text = some after ↔ text = name ++ after ∧ Ends after := by
  rw [← stripStart?_eq_some_iff]
  unfold referenceAt?
  constructor
  · intro h
    split at h
    · cases h
    · rename_i rest hstrip
      split at h
      · cases h
      · rename_i hname
        split at h
        · cases h
        · rename_i hcall
          cases h
          exact ⟨hstrip, Number.stops_iff.mpr hname, hcall⟩
  · rintro ⟨hstrip, hends⟩
    rw [hstrip]
    dsimp only
    rw [if_neg (Number.stops_iff.mp hends.noName), if_neg hends.noCall]

/-- What is found is a known name that stands in front of the rest of the text. -/
theorem longestReference_split {names : List (List Char)} {text name : List Char}
    (h : longestReference names text = some name) :
    name ∈ names ∧ isReplaceable name = true ∧ ∃ after, text = name ++ after ∧ Ends after := by
  obtain ⟨hmem, hreplaceable, hsome⟩ := longestReference_mem h
  obtain ⟨after, hafter⟩ := Option.isSome_iff_exists.mp hsome
  exact ⟨hmem, hreplaceable, after, referenceAt?_eq_some_iff.mp hafter⟩

/-- No name stands in front of a text that starts with another character than the names. -/
theorem longestReference_of_head {names : List (List Char)} {c : Char} {rest : List Char}
    (h : ∀ name ∈ names, isReplaceable name = true → name.head? ≠ some c) :
    longestReference names (c :: rest) = none := by
  rw [Option.eq_none_iff_forall_ne_some]
  intro name hname
  obtain ⟨hmem, hreplaceable, after, hsplit, -⟩ := longestReference_split hname
  refine h name hmem hreplaceable ?_
  cases name with
  | nil => cases hreplaceable
  | cons d name =>
    obtain ⟨rfl, -⟩ := List.cons.inj hsplit
    rfl

/-- A name that stands in front of a text is the run of its characters there. -/
theorem eq_takeWhile {name after : List Char} (hname : Dottable name) (hends : Ends after) :
    (name ++ after).takeWhile inName = name :=
  Number.takeWhile_append_stop hname.chars (stops_inName hends.noName)

theorem Dottable.isReplaceable {name : List Char} (h : Dottable name) :
    isReplaceable name = true := by
  obtain ⟨c, cs, rfl, hc⟩ := h.start
  have hdigit : c.isDigit = false :=
    Bool.eq_false_iff.mpr (Expr.Lexer.not_isDigit_of_isNameStart hc)
  have hpoint : (c == '.') = false := by
    rw [beq_eq_false_iff_ne]
    rintro rfl
    exact absurd hc (by decide)
  simp [Names.isReplaceable, isNumeral, hdigit, hpoint]

/-- Taking a class of characters takes none of what stops it. -/
theorem takeWhile_append_stops {p : Char → Bool} (cs : List Char) {rest : List Char}
    (h : Stops p rest) :
    (cs ++ rest).takeWhile p = cs.takeWhile p := by
  induction cs with
  | nil =>
    cases rest with
    | nil => rfl
    | cons c rest => exact List.takeWhile_cons_of_neg (Bool.eq_false_iff.mp (h c rfl))
  | cons c cs ih =>
    rw [List.cons_append, List.takeWhile_cons, List.takeWhile_cons, ih]

section
variable {names : List (List Char)}

/-- A name that stands in front of a text is the only one that does. -/
theorem longestReference_eq_some (hnames : ∀ name ∈ names, Dottable name)
    {name after : List Char} (hmem : name ∈ names) (hends : Ends after) :
    longestReference names (name ++ after) = some name := by
  have hreference : referenceAt? name (name ++ after) = some after :=
    referenceAt?_eq_some_iff.mpr ⟨rfl, hends⟩
  cases hfound : longestReference names (name ++ after) with
  | none =>
    refine absurd ?_ (longestReference_eq_none_iff.mp hfound name hmem
      (hnames name hmem).isReplaceable)
    rw [hreference]
    rfl
  | some other =>
    obtain ⟨hother, -, rest, hsplit, hrest⟩ := longestReference_split hfound
    have hrun := eq_takeWhile (hnames other hother) hrest
    rw [← hsplit, eq_takeWhile (hnames name hmem) hends] at hrun
    rw [hrun]

/-- No name starts with a character that starts none. -/
theorem longestReference_of_start (hnames : ∀ name ∈ names, Dottable name) {c : Char}
    {rest : List Char} (hc : isNameStart c = false) :
    longestReference names (c :: rest) = none := by
  refine longestReference_of_head ?_
  intro name hmem _ hhead
  obtain ⟨d, cs, rfl, hd⟩ := (hnames name hmem).start
  cases hhead
  cases hc.symm.trans hd

/-- A name that stands in front of a text starts with the whole word there, if one stands
there. -/
theorem takeWhile_of_longestReference {name w after : List Char}
    (h : longestReference names (w ++ after) = some name) (hparts : ∀ c ∈ w, isNamePart c = true)
    (hstops : Stops isNamePart after) : name.takeWhile isNamePart = w := by
  obtain ⟨-, -, rest, hsplit, hends⟩ := longestReference_split h
  have hrest : Stops isNamePart rest := fun c hc => by
    by_contra hpart
    have hcontinues := continuesName_of_isNamePart (Bool.not_eq_false _ ▸ hpart)
    cases (hends.noName c hc).symm.trans hcontinues
  have hfirst := takeWhile_append_stops name hrest
  rwa [← hsplit, Number.takeWhile_append_stop hparts hstops, eq_comm] at hfirst

/-- A word in front of a text is no name there if it is a keyword, or if it is not known and no
point follows. -/
theorem longestReference_of_word (hnames : ∀ name ∈ names, Dottable name) {w after : List Char}
    (hparts : ∀ c ∈ w, isNamePart c = true) (hstops : Stops isNamePart after)
    (hw : String.ofList w ∈ Expr.keywords ∨ w ∉ names ∧ after.head? ≠ some '.') :
    longestReference names (w ++ after) = none := by
  rw [Option.eq_none_iff_forall_ne_some]
  intro name hname
  obtain ⟨hmem, -, rest, hsplit, hrest⟩ := longestReference_split hname
  rcases hw with hkeyword | ⟨hunknown, hpoint⟩
  · have hfirst := takeWhile_of_longestReference hname hparts hstops
    exact (hnames name hmem).noKeyword (hfirst ▸ hkeyword)
  · have hchars : ∀ c ∈ w, inName c = true := fun c hc => by rw [inName, hparts c hc]; rfl
    have hend : Stops inName after := by
      intro c hc
      have hne : c ≠ '.' := by
        rintro rfl
        exact hpoint hc
      rw [inName, hstops c hc, beq_eq_false_iff_ne.mpr hne]
      rfl
    have hrun := eq_takeWhile (hnames name hmem) hrest
    rw [← hsplit, Number.takeWhile_append_stop hchars hend] at hrun
    exact hunknown (hrun ▸ hmem)

/-! ## What is copied -/

/-- A character between words: a sign, a blank, or one that a number may start with. -/
def Apart (c : Char) : Prop :=
  c ∈ signs ++ blanks ∨ c.isDigit = true ∨ c = '.'

instance (c : Char) : Decidable (Apart c) :=
  inferInstanceAs (Decidable (_ ∨ _))

/-- Signs and blanks are copied, and are no parts of names. -/
theorem plain_of_mem {c : Char} (h : c ∈ signs ++ blanks) :
    Plain c ∧ isNameStart c = false ∧ continuesName c = false := by
  have hall : (signs ++ blanks).all (fun c =>
      c != '"' && c != '\x27' && c != '#' && !isNameStart c && !continuesName c) = true := by
    decide
  have hc := List.all_eq_true.mp hall c h
  simp only [Bool.and_eq_true, bne_iff_ne, Bool.not_eq_true'] at hc
  obtain ⟨⟨⟨⟨hdouble, hsingle⟩, hcomment⟩, hstart⟩, hcontinues⟩ := hc
  exact ⟨⟨not_or.mpr ⟨hdouble, hsingle⟩, hcomment⟩, hstart, hcontinues⟩

/-- A character between words is plain and starts no name. -/
theorem Apart.plain {c : Char} (h : Apart c) : Plain c ∧ isNameStart c = false := by
  rcases h with h | h | rfl
  · exact ⟨(plain_of_mem h).1, (plain_of_mem h).2.1⟩
  · refine ⟨.of_isNamePart (Expr.Lexer.isNamePart_of_isDigit h), ?_⟩
    by_contra hstart
    exact Expr.Lexer.not_isDigit_of_isNameStart (Bool.not_eq_false _ ▸ hstart) h
  · refine ⟨⟨?_, by decide⟩, rfl⟩
    rintro (h | h) <;> exact absurd h (by decide)

/-- No name starts with a character between words. -/
def StartApart (names : List (List Char)) : Prop :=
  ∀ c rest, Apart c → longestReference names (c :: rest) = none

/-- Names of words start with no character between words. -/
theorem startApart_of_dottable (hnames : ∀ name ∈ names, Dottable name) : StartApart names :=
  fun _ _ hc => longestReference_of_start hnames hc.plain.2

/-- A character is copied where a name goes on and where none stands. -/
theorem resolve_copy {before : Option Char} {c : Char} {rest : List Char} (hc : Plain c)
    (h : before.any continuesName = true ∨ longestReference names (c :: rest) = none) :
    resolve names before (c :: rest) = c :: resolve names (some c) rest := by
  rw [resolve_plain hc]
  by_cases hbefore : before.any continuesName = true
  · rw [if_pos hbefore]
  · rw [if_neg hbefore, h.resolve_left hbefore]

/-- Characters between words are copied. -/
theorem resolve_copies (hnames : StartApart names) {used : List Char}
    (hused : ∀ c ∈ used, Apart c) (before : Option Char)
    (rest : List Char) : resolve names before (used ++ rest)
      = used ++ resolve names (used.getLast?.or before) rest := by
  induction used generalizing before with
  | nil => rfl
  | cons c used ih =>
    have hc := hused c List.mem_cons_self
    have hlast : (c :: used).getLast?.or before = used.getLast?.or (some c) := by
      rw [List.getLast?_cons]
      cases used.getLast? with
      | none => rfl
      | some d => rfl
    rw [List.cons_append, resolve_copy hc.plain.1 (.inr (hnames c _ hc)),
      ih (fun d hd => hused d (List.mem_cons_of_mem c hd)), hlast]
    rfl

/-- A name that goes on is copied to its end. -/
theorem resolve_copies_name {used : List Char} (hused : ∀ c ∈ used, isNamePart c = true)
    {before : Char} (hbefore : continuesName before = true) (rest : List Char) :
    ∃ last, resolve names (some before) (used ++ rest)
      = used ++ resolve names (some last) rest := by
  induction used generalizing before with
  | nil => exact ⟨before, rfl⟩
  | cons c used ih =>
    have hc := hused c List.mem_cons_self
    obtain ⟨last, hlast⟩ := ih (fun d hd => hused d (List.mem_cons_of_mem c hd))
      (continuesName_of_isNamePart hc)
    refine ⟨last, ?_⟩
    rw [List.cons_append, resolve_copy (.of_isNamePart hc)
      (.inl (show (some before).any continuesName = true from hbefore)), hlast]
    rfl

/-! ## Tokens that stay -/

/-- A name that starts in front of a text does not go on with what stands before. -/
def Fresh (before : Option Char) (text : List Char) : Prop :=
  before.any continuesName = true → Stops isNameStart text

theorem fresh_of_stops {before : Option Char} {text : List Char} (h : Stops isNameStart text) :
    Fresh before text :=
  fun _ => h

theorem fresh_of_not_continues {before : Option Char} {text : List Char}
    (h : before.any continuesName = false) : Fresh before text := by
  intro hbefore
  cases h.symm.trans hbefore

/-- Blanks and comments are copied, and separate what stands before and after them. They hold no
tokens before any text that starts like the one after them. -/
theorem resolve_skipBlanks (hnames : StartApart names) {before : Option Char} {cs : List Char}
    (hfresh : Fresh before cs) : ∃ last gap, Fresh last (skipBlanks cs) ∧
      cs = gap ++ skipBlanks cs ∧
      resolve names before cs = gap ++ resolve names last (skipBlanks cs) ∧
      ∀ ds, StartsAlike ds (skipBlanks cs) → kinds (gap ++ ds) = kinds ds := by
  induction cs using skipBlanks_rec generalizing before with
  | start cs hskip =>
    rw [hskip]
    exact ⟨before, [], hfresh, rfl, rfl, fun _ _ => rfl⟩
  | blank c rest hblank ih =>
    have hc := List.mem_append_right signs (isBlank_iff_mem_blanks.mp hblank)
    obtain ⟨hplain, -, hbefore⟩ := plain_of_mem hc
    have hrest : Fresh (some c) rest := fresh_of_not_continues hbefore
    obtain ⟨last, gap, hlast, hgap, hresolve, hkinds⟩ := ih hrest
    rw [skipBlanks_blank hblank]
    refine ⟨last, c :: gap, hlast, congrArg (c :: ·) hgap, ?_, ?_⟩
    · rw [resolve_copy hplain (.inr (hnames c rest (.inl hc))), hresolve, List.cons_append]
    · intro ds hds
      rw [List.cons_append, kinds_blank _ hblank, hkinds ds hds]
  | comment rest ih =>
    obtain ⟨hinside, hline⟩ := comment_split rest
    -- the comment ends at the line end, where no name starts
    have hstops : Stops isNameStart (rest.dropWhile (· != '\n')) := hline.stops rfl
    obtain ⟨last, gap, hlast, hgap, hresolve, hkinds⟩ := ih (fresh_of_stops hstops)
    rw [skipBlanks_hash]
    refine ⟨last, '#' :: (rest.takeWhile (· != '\n') ++ gap), hlast, ?_, ?_, ?_⟩
    · rw [List.cons_append, List.append_assoc, ← hgap, List.takeWhile_append_dropWhile]
    · rw [resolve_comment, hresolve, List.cons_append, List.append_assoc]
    · intro ds hds
      have hstart : StartsAlike (gap ++ ds) (rest.dropWhile (· != '\n')) := by
        rw [hgap]
        exact hds.append gap
      have hends : ∀ c ∈ (gap ++ ds).head?, c = '\n' := by
        rwa [hstart.head_eq hstops]
      rw [List.cons_append, List.append_assoc, kinds_congr (skipBlanks_comment hinside hends),
        hkinds ds hds]

/-- What stands before the rest of a text, when something of it was copied. -/
theorem exists_last {used : List Char} (hne : used ≠ []) (before : Option Char) :
    ∃ last ∈ used, used.getLast?.or before = some last :=
  ⟨used.getLast hne, List.getLast_mem hne, by rw [List.getLast?_eq_some_getLast hne]; rfl⟩

/-- The characters of a number are copied: no name starts with a digit, a point or a sign, and
the mark of an exponent goes on with the digits before it. -/
theorem resolve_number (hnames : StartApart names) {text : List Char}
    (htext : NumberText text) (hhead : ∀ c ∈ text.head?, c.isDigit = true ∨ c = '.')
    (before : Option Char) (rest : List Char) : ∃ last, resolve names before (text ++ rest)
      = text ++ resolve names last rest := by
  cases htext with
  | plain h => exact ⟨_, resolve_copies hnames (fun c hc => .inr (h c hc)) before rest⟩
  | @exponent plain tail mark h hmark htail =>
    have hstart := hmark.isNameStart
    have hne : plain ≠ [] := by
      rintro rfl
      rcases hhead mark rfl with hdigit | rfl
      · exact Expr.Lexer.not_isDigit_of_isNameStart hstart hdigit
      · exact absurd hstart (by decide)
    obtain ⟨last, hmem, hlast⟩ := exists_last hne before
    -- The mark follows a digit or the point, so no name is looked for there.
    have hcontinues : (some last).any continuesName = true := by
      rcases h last hmem with hdigit | rfl
      · exact continuesName_of_isNamePart (Expr.Lexer.isNamePart_of_isDigit hdigit)
      · rfl
    have htail : ∀ c ∈ tail, Apart c := by
      intro c hc
      rcases htail c hc with hdigit | rfl | rfl
      · exact .inr (.inl hdigit)
      · exact .inl (by decide)
      · exact .inl (by decide)
    refine ⟨tail.getLast?.or (some mark), ?_⟩
    rw [List.append_assoc, resolve_copies hnames (fun c hc => .inr (h c hc)), hlast,
      List.cons_append,
      resolve_copy (.of_isNamePart (Expr.Lexer.isNamePart_of_isNameStart hstart))
        (.inl hcontinues), resolve_copies hnames htail, List.append_assoc]
    rfl

/-- The text of a token that is no point is copied, if no known name stands there. -/
theorem resolve_token (hnames : StartApart names) {kind : TokenKind} {c : Char}
    {used rest : List Char} (hshape : TokenShape kind c used rest) (hpoint : kind ≠ .dot)
    (hword : ∀ w : List Char, kind = .ofWord (String.ofList w) → (∀ d ∈ w, isNamePart d = true) →
      Stops isNamePart rest → longestReference names (w ++ rest) = none)
    {before : Option Char} (hfresh : Fresh before (c :: (used ++ rest))) :
    ∃ last, Fresh last rest ∧
      resolve names before (c :: used ++ rest) = c :: used ++ resolve names last rest := by
  cases hshape with
  | sign _ hsigns =>
    -- operators and brackets: no name starts with their characters
    have hused : ∀ d ∈ c :: used, Apart d :=
      fun d hd => .inl (List.mem_append_left blanks (hsigns d hd))
    refine ⟨_, fresh_of_not_continues ?_, resolve_copies hnames hused before rest⟩
    obtain ⟨last, hmem, hlast⟩ := exists_last (List.cons_ne_nil c used) before
    rw [hlast]
    exact (plain_of_mem (List.mem_append_left blanks (hsigns last hmem))).2.2
  | point => exact absurd rfl hpoint
  | number _ hc htext hstops =>
    -- a number may hold the letter of an exponent, at which no name may be found
    have hhead : ∀ d ∈ (c :: used).head?, d.isDigit = true ∨ d = '.' := by
      rintro d ⟨rfl⟩
      exact hc
    obtain ⟨last, hlast⟩ := resolve_number hnames htext hhead before rest
    exact ⟨last, fresh_of_stops hstops, hlast⟩
  | string hc hlast hliteral =>
    -- a quoted text is copied as a whole, and its quote goes on with no name
    refine ⟨some c, fresh_of_not_continues ?_, ?_⟩
    · rcases hc with rfl | rfl
      · rfl
      · rfl
    · rw [List.cons_append, resolve_quote hc, hliteral, hlast]
      rfl
  | word hc hparts hstops =>
    -- a word is looked up where it starts, and nowhere inside of it
    have hbefore : ¬ before.any continuesName = true := by
      intro hbefore
      cases (hfresh hbefore c rfl).symm.trans hc
    have hpart := Expr.Lexer.isNamePart_of_isNameStart hc
    have hchars : ∀ d ∈ c :: used, isNamePart d = true := by
      intro d hd
      rcases List.mem_cons.mp hd with rfl | hd
      · exact hpart
      · exact hparts d hd
    have hnone := hword (c :: used) rfl hchars hstops
    obtain ⟨last, hlast⟩ := @resolve_copies_name names _ hparts _
      (continuesName_of_isNamePart hpart) rest
    refine ⟨some last, fresh_of_stops (Expr.Lexer.stops_nameStart hstops), ?_⟩
    rw [List.cons_append] at hnone ⊢
    rw [resolve_plain (.of_isNamePart hpart), if_neg hbefore, hnone, hlast]
    rfl

end

end RowSignals.Names
