import Mathlib
import RowSignals.Template

/-!
# Writing templates

A list of segments is written as a text by doubling the braces of its literal texts. Reading the
text finds the same places and gives the same results, although literal texts that stand side by
side are read as one and empty ones not at all.

* `Template.written`: the text of some segments.
* `Template.Writable`: the names that a place can have as they are.
* `Template.merged`: some segments with their neighbouring literal texts joined; `scan_written`:
  what is read from the text.
* `Template.ofText_written`: what a template does that is read from the text.
-/

namespace RowSignals

namespace Template

/-! ## Texts of segments -/

/-- A character of a literal text: a brace is written twice. -/
def writtenChar (c : Char) : List Char :=
  if c = '{' ∨ c = '}' then [c, c] else [c]

/-- The text of a segment. -/
def Segment.written : Segment → List Char
  | .literal text => text.toList.flatMap writtenChar
  | .place name => '{' :: (name.toList ++ ['}'])

/-- The text of some segments. -/
def written (segments : List Segment) : String :=
  String.ofList (segments.flatMap Segment.written)

/-- A name that a place has as it is written: it does not end the place, nor make its brace a
doubled one, and there are no blanks around it. -/
structure Writable (name : String) : Prop where
  unclosed : '}' ∉ name.toList
  undoubled : name.toList.head? ≠ some '{'
  start : ∀ c, name.toList.head? = some c → Text.isBlank c = false
  stop : ∀ c, name.toList.getLast? = some c → Text.isBlank c = false

/-! ## Reading what was written -/

section
variable {text name : List Char}

/-- A character, written for a literal text, is read back as that character. -/
theorem scan_char (c : Char) (rest : List Char) :
    scan text none (writtenChar c ++ rest) = scan (text ++ [c]) none rest := by
  by_cases hopen : c = '{'
  · subst hopen
    rfl
  by_cases hclose : c = '}'
  · subst hclose
    rfl
  simp [writtenChar, hopen, hclose, scan]

theorem scan_literal (literal rest : List Char) :
    scan text none (literal.flatMap writtenChar ++ rest) = scan (text ++ literal) none rest := by
  induction literal generalizing text with
  | nil => rw [List.append_nil, List.flatMap_nil, List.nil_append]
  | cons c literal ih =>
    rw [List.flatMap_cons, List.append_assoc, scan_char, ih, List.append_assoc,
      List.singleton_append]

/-- Inside a place, everything up to the closing brace is its name. -/
theorem scan_name {more : List Char} (hmore : '}' ∉ more) (rest : List Char) :
    scan text (some name) (more ++ '}' :: rest)
      = literalSegments text ++ .place (String.ofList (Text.trim (name ++ more)))
        :: scan [] none rest := by
  induction more generalizing name with
  | nil => rw [List.append_nil, List.nil_append, scan, if_pos rfl]
  | cons c more ih =>
    simp only [List.mem_cons, not_or] at hmore
    rw [List.cons_append, scan, if_neg (Ne.symm hmore.1), ih hmore.2, List.append_assoc,
      List.singleton_append]

/-- A text without blanks at its ends is not trimmed. -/
theorem trim_eq_self {cs : List Char} (hstart : ∀ c, cs.head? = some c → Text.isBlank c = false)
    (hstop : ∀ c, cs.getLast? = some c → Text.isBlank c = false) : Text.trim cs = cs := by
  have hkept (ds : List Char) (h : ∀ c, ds.head? = some c → Text.isBlank c = false) :
      ds.dropWhile Text.isBlank = ds := by
    cases ds with
    | nil => rfl
    | cons c ds => rw [List.dropWhile_cons_of_neg (by simp [h c rfl])]
  rw [Text.trim, Text.trimStart, hkept cs hstart, Text.trimEnd, hkept, List.reverse_reverse]
  intro c hc
  exact hstop c (by rwa [List.head?_reverse] at hc)

/-- A place, written in braces, is read back as the place of its name. -/
theorem scan_place {placeName : String} (h : Writable placeName) (rest : List Char) :
    scan text none (Segment.written (.place placeName) ++ rest)
      = literalSegments text ++ .place placeName :: scan [] none rest := by
  have hopen : scan text none ('{' :: (placeName.toList ++ '}' :: rest))
      = scan text (some []) (placeName.toList ++ '}' :: rest) := by
    -- the brace is not doubled: what follows it is the name or, if that is empty, the closing brace
    have hundoubled := h.undoubled
    generalize placeName.toList = cs at hundoubled ⊢
    cases cs with
    | nil => rfl
    | cons c more =>
      have hc : c ≠ '{' := fun heq => hundoubled (congrArg some heq)
      simp [scan, hc]
  rw [Segment.written, List.cons_append, List.append_assoc, List.singleton_append, hopen,
    scan_name h.unclosed, List.nil_append, trim_eq_self h.start h.stop, String.ofList_toList]

end

/-- The segments after the literal text before them, with literal texts joined that stand side by
side. -/
def merged (text : List Char) : List Segment → List Segment
  | [] => literalSegments text
  | .literal more :: rest => merged (text ++ more.toList) rest
  | .place name :: rest => literalSegments text ++ .place name :: merged [] rest

/-- Whatever segments write is read back with neighbouring literal texts joined. By induction on
the segments, with the text read so far. -/
theorem scan_written {segments : List Segment}
    (h : ∀ name, .place name ∈ segments → Writable name) (text : List Char) :
    scan text none (segments.flatMap Segment.written) = merged text segments := by
  induction segments generalizing text with
  | nil => rfl
  | cons segment segments ih =>
    have hrest : ∀ name, .place name ∈ segments → Writable name :=
      fun name hname => h name (List.mem_cons_of_mem _ hname)
    rw [List.flatMap_cons]
    cases segment with
    | literal more =>
      rw [Segment.written, scan_literal, ih hrest]
      rfl
    | place name =>
      rw [scan_place (h name List.mem_cons_self), ih hrest]
      rfl

/-! ## Templates with joined literal texts -/

theorem references_merged (text : List Char) (segments : List Segment) :
    (merged text segments).filterMap Segment.name? = segments.filterMap Segment.name? := by
  have hliteral (literal : List Char) : (literalSegments literal).filterMap Segment.name? = [] := by
    unfold literalSegments
    split <;> rfl
  induction segments generalizing text with
  | nil => exact hliteral text
  | cons segment segments ih =>
    cases segment with
    | literal more => exact ih _
    | place name =>
      rw [merged, List.filterMap_append, hliteral, List.nil_append, List.filterMap_cons,
        List.filterMap_cons, ih]

section
variable {sources : Sources}

/-- A template is rendered from the front: what fails first decides. -/
theorem render_cons (segment : Segment) (segments : List Segment) :
    render ⟨segment :: segments⟩ sources
      = segment.render sources >>= fun text => (render ⟨segments⟩ sources).map (text ++ ·) := by
  unfold render
  rw [List.mapM_cons]
  cases segment.render sources with
  | error error => rfl
  | ok text =>
    cases segments.mapM (Segment.render sources) with
    | error error => rfl
    | ok texts => exact congrArg Except.ok String.join_cons

theorem render_literal (text : String) (segments : List Segment) :
    render ⟨.literal text :: segments⟩ sources = (render ⟨segments⟩ sources).map (text ++ ·) :=
  render_cons _ _

/-- An empty literal text is not needed. -/
theorem render_literalSegments (text : List Char) (segments : List Segment) :
    render ⟨literalSegments text ++ segments⟩ sources
      = (render ⟨segments⟩ sources).map (String.ofList text ++ ·) := by
  cases text with
  | nil =>
    show render ⟨segments⟩ sources = _
    cases render ⟨segments⟩ sources with
    | error error => rfl
    | ok text => exact congrArg Except.ok String.empty_append.symm
  | cons c text => exact render_literal _ _

/-- Joining literal texts does not change what is rendered. -/
theorem render_merged (text : List Char) (segments : List Segment) :
    render ⟨merged text segments⟩ sources
      = (render ⟨segments⟩ sources).map (String.ofList text ++ ·) := by
  induction segments generalizing text with
  | nil =>
    rw [merged, ← render_literalSegments, List.append_nil]
  | cons segment segments ih =>
    cases segment with
    | literal more =>
      rw [merged, ih, render_literal]
      cases render ⟨segments⟩ sources with
      | error error => rfl
      | ok rest =>
        refine congrArg Except.ok ?_
        show String.ofList (text ++ more.toList) ++ rest = String.ofList text ++ (more ++ rest)
        rw [String.ofList_append, String.ofList_toList, String.append_assoc]
    -- The text so far ends here, and a placeholder starts the next text empty.
    | place name =>
      rw [merged, render_literalSegments, render_cons, render_cons, ih]
      cases (Segment.place name).render sources with
      | error error => rfl
      | ok shown =>
        cases render ⟨segments⟩ sources with
        | error error => rfl
        | ok rest =>
          refine congrArg Except.ok ?_
          show String.ofList text ++ (shown ++ (String.ofList [] ++ rest))
            = String.ofList text ++ (shown ++ rest)
          rw [show String.ofList [] = "" from rfl, String.empty_append]

/-! ## What a template gives -/

/-- The text of a segment when every place has a value. -/
def Segment.filled (values : String → Value) : Segment → String
  | .literal text => text
  | .place name => (values name).display

/-- With values for all its places a template gives its segments one after the other. -/
theorem render_filled {segments : List Segment} {values : String → Value}
    (h : ∀ name, .place name ∈ segments → sources.find? name = some (values name)) :
    render ⟨segments⟩ sources = .ok (String.join (segments.map (Segment.filled values))) := by
  induction segments with
  | nil => rfl
  | cons segment segments ih =>
    have hsegment : segment.render sources = .ok (segment.filled values) := by
      cases segment with
      | literal text => rfl
      | place name =>
        rw [Segment.render, h name List.mem_cons_self]
        rfl
    have hrest := ih fun name hname => h name (List.mem_cons_of_mem _ hname)
    rw [render_cons, hsegment, hrest, List.map_cons, String.join_cons]
    rfl

/-- The places before the first one that has no value do not matter. -/
theorem render_first_unbound {segments : List Segment} {name : String}
    (h : (segments.filterMap Segment.name?).find? (fun n => (sources.find? n).isNone) = some name) :
    render ⟨segments⟩ sources = .error (.missingSource name) := by
  induction segments with
  | nil => cases h
  | cons segment segments ih =>
    cases segment with
    | literal text =>
      rw [render_literal, ih h]
      rfl
    | place first =>
      change (first :: segments.filterMap Segment.name?).find? _ = some name at h
      rw [List.find?_cons] at h
      rw [render_cons, Segment.render]
      cases hfirst : sources.find? first with
      | none =>
        rw [hfirst] at h
        cases h
        rfl
      | some value =>
        rw [hfirst] at h
        rw [ih h]
        rfl

end

/-- A text that writes some segments is read as a template with their places, in order. Where the
sources of a row bind them all, the template gives the literal texts and the shown values one after
the other; where they do not, it fails with the first name that is not bound. -/
theorem ofText_written {segments : List Segment}
    (h : ∀ name, .place name ∈ segments → Writable name) :
    (ofText (written segments)).references = segments.filterMap Segment.name?
      ∧ (∀ (sources : Sources) (values : String → Value),
        (∀ name, .place name ∈ segments → sources.find? name = some (values name)) →
          (ofText (written segments)).render sources
            = .ok (String.join (segments.map (Segment.filled values))))
      ∧ (∀ (sources : Sources) (name : String),
        (segments.filterMap Segment.name?).find? (fun n => (sources.find? n).isNone) = some name →
          (ofText (written segments)).render sources = .error (.missingSource name)) := by
  have hread : ofText (written segments) = ⟨merged [] segments⟩ := by
    rw [ofText, written, String.toList_ofList, scan_written h]
  have hrender (sources : Sources) :
      (ofText (written segments)).render sources = render ⟨segments⟩ sources := by
    rw [hread, render_merged]
    cases render ⟨segments⟩ sources with
    | error error => rfl
    | ok text => exact congrArg Except.ok String.empty_append
  refine ⟨?_, fun sources values hbound => ?_, fun sources name hfirst => ?_⟩
  · rw [hread]
    exact references_merged [] segments
  · rw [hrender, render_filled hbound]
  · rw [hrender, render_first_unbound hfirst]

/-- Literal texts that end or start with braces may stand next to places, places next to each other,
and a name may be empty. -/
theorem ofText_written_braces :
    written [.literal "a\x7b", .place "", .place "x\x7by", .literal "\x7db"]
        = "a\x7b\x7b\x7b\x7d\x7bx\x7by\x7d\x7d\x7db"
      ∧ (ofText "a\x7b\x7b\x7b\x7d\x7bx\x7by\x7d\x7d\x7db").references = ["", "x\x7by"] := by
  have hwritten : written [.literal "a\x7b", .place "", .place "x\x7by", .literal "\x7db"]
      = "a\x7b\x7b\x7b\x7d\x7bx\x7by\x7d\x7d\x7db" := by
    decide
  have hnames : ∀ name,
      .place name
          ∈ [Segment.literal "a\x7b", .place "", .place "x\x7by", .literal "\x7db"] →
        Writable name := by
    intro name hname
    obtain rfl | rfl : name = "" ∨ name = "x\x7by" := by simpa using hname
    · exact ⟨by decide, by decide, by simp, by simp⟩
    · exact ⟨by decide, by decide, by simp; decide, by simp; decide⟩
  refine ⟨hwritten, ?_⟩
  rw [← hwritten]
  exact (ofText_written hnames).1

end Template

end RowSignals
