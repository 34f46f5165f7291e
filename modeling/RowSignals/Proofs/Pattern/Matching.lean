import Mathlib
import RowSignals.Pattern.Basic

/-!
# What patterns match

The documented meaning of a pattern, without regard to how a match is found: which texts it takes
between the character before and the text after, and what its captures keep.

* `Pattern.Takes`: the texts that a pattern takes, with a rule for each kind of pattern.
* `Pattern.Found`: a match somewhere in a text.
* `Pattern.TakesAnywhere`: patterns that do not depend on what is around, with lemmas for
  sequences, alternatives, repetitions and captures.
-/

namespace RowSignals

namespace Pattern

/-- The texts that captures kept, with their numbers. -/
abbrev Kept := List (Nat × List Char)

/-- A pattern takes a text after the character `before` and in front of `rest`. -/
inductive Takes : Pattern → Option Char → List Char → List Char → Kept → Prop where
  | empty {before rest} : Takes .empty before [] rest []
  | one {set before c rest} (h : set.contains c = true) : Takes (.one set) before [c] rest []
  | anchored {anchor before rest} (h : anchor.holds before rest.head? = true) :
    Takes (.anchored anchor) before [] rest []
  | capture {index body before cs rest kept} (h : Takes body before cs rest kept) :
    Takes (.capture index body) before cs rest (kept ++ [(index, cs)])
  | followedBy {first second before cs ds rest kept more}
    (hfirst : Takes first before cs (ds ++ rest) kept)
    (hsecond : Takes second (cs.getLast?.or before) ds rest more) :
    Takes (.followedBy first second) before (cs ++ ds) rest (kept ++ more)
  | first {first second before cs rest kept} (h : Takes first before cs rest kept) :
    Takes (.either first second) before cs rest kept
  | second {first second before cs rest kept} (h : Takes second before cs rest kept) :
    Takes (.either first second) before cs rest kept
  | done {most greedy body before rest} : Takes (.repeated ⟨0, most, greedy⟩ body) before [] rest []
  | again {least most greedy body before cs ds rest kept more} (hmost : most ≠ some 0)
    (hbody : Takes body before cs (ds ++ rest) kept)
    (hmore : Takes (.repeated ⟨least - 1, most.map (· - 1), greedy⟩ body) (cs.getLast?.or before)
      ds rest more) :
    Takes (.repeated ⟨least, most, greedy⟩ body) before (cs ++ ds) rest (kept ++ more)

/-- A pattern takes a part of a text. -/
def Found (pattern : Pattern) (text : List Char) (kept : Kept) : Prop :=
  ∃ start part rest, text = start ++ (part ++ rest) ∧ pattern.Takes start.getLast? part rest kept

/-- A pattern takes the same texts everywhere. -/
def TakesAnywhere (pattern : Pattern) (language : List Char → Kept → Prop) : Prop :=
  ∀ before cs rest kept, pattern.Takes before cs rest kept ↔ language cs kept

/-- Texts of which nothing is kept. -/
abbrev Plain (P : List Char → Prop) (cs : List Char) (kept : Kept) : Prop :=
  P cs ∧ kept = []

/-! ## Patterns around places -/

section
variable {first second body : Pattern} {before : Option Char} {cs rest : List Char} {kept : Kept}

/-- An anchor takes the empty text, and keeps nothing, where it holds between the characters
around it. -/
theorem takes_anchored {anchor : Anchor} :
    Takes (.anchored anchor) before cs rest kept
      ↔ anchor.holds before rest.head? = true ∧ cs = [] ∧ kept = [] := by
  constructor
  · rintro (_ | _ | h)
    exact ⟨h, rfl, rfl⟩
  · rintro ⟨h, rfl, rfl⟩
    exact .anchored h

/-- A sequence takes a text that its first part takes in front of one that the second part takes
after the last character before it. Both parts' captures are kept. -/
theorem takes_followedBy :
    Takes (.followedBy first second) before cs rest kept
      ↔ ∃ ds es more others, Takes first before ds (es ++ rest) more
        ∧ Takes second (ds.getLast?.or before) es rest others
        ∧ cs = ds ++ es ∧ kept = more ++ others := by
  constructor
  · rintro (_ | _ | _ | _ | ⟨hfirst, hsecond⟩)
    exact ⟨_, _, _, _, hfirst, hsecond, rfl, rfl⟩
  · rintro ⟨ds, es, more, others, hfirst, hsecond, rfl, rfl⟩
    exact .followedBy hfirst hsecond

end

/-! ## Patterns that do not depend on places -/

section
variable {first second body : Pattern} {R S : List Char → Kept → Prop} {P Q : List Char → Prop}

/-- The language of a pattern may be put in other words. -/
theorem TakesAnywhere.congr (h : body.TakesAnywhere R) (hRS : ∀ cs kept, R cs kept ↔ S cs kept) :
    body.TakesAnywhere S :=
  fun before cs rest kept => (h before cs rest kept).trans (hRS cs kept)

/-- A set takes one of its characters. -/
theorem takesAnywhere_one (set : CharSet) :
    TakesAnywhere (.one set) (Plain fun cs => ∃ c, set.contains c = true ∧ cs = [c]) := by
  intro before cs rest kept
  constructor
  · rintro (_ | h)
    exact ⟨⟨_, h, rfl⟩, rfl⟩
  · rintro ⟨⟨c, h, rfl⟩, rfl⟩
    exact .one h

/-- A capture takes what its body takes, and keeps it under its number. -/
theorem TakesAnywhere.capture (h : body.TakesAnywhere (Plain P)) (index : Nat) :
    TakesAnywhere (.capture index body) fun cs kept => P cs ∧ kept = [(index, cs)] := by
  intro before cs rest kept
  constructor
  · rintro (_ | _ | _ | hbody)
    obtain ⟨hcs, rfl⟩ := (h ..).mp hbody
    exact ⟨hcs, rfl⟩
  · rintro ⟨hcs, rfl⟩
    exact .capture ((h ..).mpr ⟨hcs, rfl⟩)

/-- A sequence of two patterns takes a text of the first one before a text of the second one. -/
theorem TakesAnywhere.followedBy (hfirst : first.TakesAnywhere R)
    (hsecond : second.TakesAnywhere S) :
    TakesAnywhere (.followedBy first second) fun cs kept =>
      ∃ ds es more others, R ds more ∧ S es others ∧ cs = ds ++ es ∧ kept = more ++ others := by
  intro before cs rest kept
  simp only [takes_followedBy, hfirst _ _ _ _, hsecond _ _ _ _]

/-- If neither part keeps anything, their sequence takes the concatenations of their texts. -/
theorem TakesAnywhere.followedBy_plain (hfirst : first.TakesAnywhere (Plain P))
    (hsecond : second.TakesAnywhere (Plain Q)) :
    TakesAnywhere (.followedBy first second)
      (Plain fun cs => ∃ ds es, P ds ∧ Q es ∧ cs = ds ++ es) := by
  refine (hfirst.followedBy hsecond).congr fun cs kept => ?_
  constructor
  · rintro ⟨ds, es, _, _, ⟨hds, rfl⟩, ⟨hes, rfl⟩, rfl, rfl⟩
    exact ⟨⟨ds, es, hds, hes, rfl⟩, rfl⟩
  · rintro ⟨⟨ds, es, hds, hes, rfl⟩, rfl⟩
    exact ⟨ds, es, _, _, ⟨hds, rfl⟩, ⟨hes, rfl⟩, rfl, rfl⟩

/-- An alternative takes the texts of both its parts. -/
theorem TakesAnywhere.either (hfirst : first.TakesAnywhere (Plain P))
    (hsecond : second.TakesAnywhere (Plain Q)) :
    TakesAnywhere (.either first second) (Plain fun cs => P cs ∨ Q cs) := by
  intro before cs rest kept
  constructor
  · rintro (_ | _ | _ | _ | _ | h | h)
    · obtain ⟨hcs, rfl⟩ := (hfirst ..).mp h
      exact ⟨.inl hcs, rfl⟩
    · obtain ⟨hcs, rfl⟩ := (hsecond ..).mp h
      exact ⟨.inr hcs, rfl⟩
  · rintro ⟨h | h, rfl⟩
    · exact .first ((hfirst ..).mpr ⟨h, rfl⟩)
    · exact .second ((hsecond ..).mpr ⟨h, rfl⟩)

/-- A pattern that may be left out takes its texts and the empty one, of which nothing is kept. -/
theorem TakesAnywhere.optional (h : body.TakesAnywhere R) (greedy : Bool) :
    TakesAnywhere (.repeated ⟨0, some 1, greedy⟩ body) fun cs kept =>
      (cs = [] ∧ kept = []) ∨ R cs kept := by
  intro before cs rest kept
  constructor
  · rintro (_ | _ | _ | _ | _ | _ | _ | _ | ⟨-, hbody, hmore⟩)
    · exact .inl ⟨rfl, rfl⟩
    -- Nothing is left of the repetition after one round.
    · rcases hmore with _ | _ | _ | _ | _ | _ | _ | _ | ⟨hmost, -, -⟩
      · rw [List.append_nil, List.append_nil]
        exact .inr ((h ..).mp hbody)
      · exact absurd rfl hmost
  · rintro (⟨rfl, rfl⟩ | hbody)
    · exact .done
    · have hround :
          Takes (.repeated ⟨0, some 1, greedy⟩ body) before (cs ++ []) rest (kept ++ []) :=
        .again (by decide) ((h ..).mpr hbody) .done
      rwa [List.append_nil, List.append_nil] at hround

/-- A repetition without upper limit takes the concatenations of sufficiently many texts of its
body. This is the rule that needs induction, over the rounds of the repetition in one direction
and over the texts in the other. -/
theorem TakesAnywhere.repeated (h : body.TakesAnywhere (Plain P)) (least : Nat) (greedy : Bool) :
    TakesAnywhere (.repeated ⟨least, none, greedy⟩ body) (Plain fun cs =>
      ∃ parts : List (List Char), least ≤ parts.length
        ∧ (∀ part ∈ parts, P part) ∧ cs = parts.flatten) := by
  intro before cs rest kept
  constructor
  · intro htakes
    generalize hpattern : Pattern.repeated ⟨least, none, greedy⟩ body = pattern at htakes
    induction htakes generalizing least with
    | done =>
      cases hpattern
      exact ⟨⟨[], Nat.zero_le _, by simp, rfl⟩, rfl⟩
    | again _ hbody _ _ ih =>
      cases hpattern
      obtain ⟨⟨parts, hlength, hparts, rfl⟩, rfl⟩ := ih _ rfl
      obtain ⟨hpart, rfl⟩ := (h ..).mp hbody
      refine ⟨⟨_ :: parts, ?_, List.forall_mem_cons.mpr ⟨hpart, hparts⟩, rfl⟩, rfl⟩
      rw [List.length_cons]
      omega
    | _ => cases hpattern
  · rintro ⟨⟨parts, hlength, hparts, rfl⟩, rfl⟩
    induction parts generalizing least before with
    | nil =>
      cases Nat.le_zero.mp hlength
      exact .done
    | cons part parts ih =>
      obtain ⟨hpart, hparts⟩ := List.forall_mem_cons.mp hparts
      rw [List.length_cons] at hlength
      have hmost : (none : Option Nat) ≠ some 0 := (Option.some_ne_none 0).symm
      exact .again hmost ((h ..).mpr ⟨hpart, rfl⟩) (ih (least - 1) _ (by omega) hparts)

/-- A set of characters repeated takes any texts of them that are long enough. -/
theorem takesAnywhere_repeated_one (set : CharSet) (least : Nat) (greedy : Bool) :
    TakesAnywhere (.repeated ⟨least, none, greedy⟩ (.one set))
      (Plain fun cs => least ≤ cs.length ∧ ∀ c ∈ cs, set.contains c = true) := by
  refine ((takesAnywhere_one set).repeated least greedy).congr fun cs kept => and_congr_left' ?_
  constructor
  · rintro ⟨parts, hlength, hparts, rfl⟩
    induction parts generalizing least with
    | nil => exact ⟨hlength, by simp⟩
    | cons part parts ih =>
      obtain ⟨⟨c, hc, rfl⟩, hmore⟩ := List.forall_mem_cons.mp hparts
      rw [List.length_cons] at hlength
      obtain ⟨hrest, hcs⟩ := ih (least - 1) (by omega) hmore
      refine ⟨?_, List.forall_mem_cons.mpr ⟨hc, hcs⟩⟩
      rw [List.flatten_cons, List.singleton_append, List.length_cons]
      omega
  · rintro ⟨hlength, hcs⟩
    refine ⟨cs.map ([·]), by rwa [List.length_map], ?_, ?_⟩
    · intro part hpart
      obtain ⟨c, hc, rfl⟩ := List.mem_map.mp hpart
      exact ⟨c, hcs c hc, rfl⟩
    · rw [← List.flatMap_def, List.flatMap_singleton']

end

end Pattern

end RowSignals
