import RowSignals.RowError
import RowSignals.Text.Blank

/-!
# Templates

A template is a text with places for the sources of a row: `{name}` stands for the value of a
source, `{{` and `}}` for single braces. Host names and the messages of service checks are
templates.

* `Template`: literal texts and places, in order.
* `Template.ofText`: reading a template. Every text is one: a brace that opens no place stands
  for itself.
* `Template.references`: the names of the places, which compiling checks against the sources
  that a row will have.
* `Template.render`: the text for the sources of a row.

The reader is one function over the characters, with what was read of the current literal text
and of the current place. Everything between an opening brace and the next closing one is a
name, a second opening brace included.
-/

namespace RowSignals

/-- A piece of a template. -/
inductive Template.Segment where
  | literal (text : String)
  | place (name : String)
  deriving Repr, DecidableEq

/-- Literal texts and places for sources. -/
structure Template where
  segments : List Template.Segment
  deriving Repr, DecidableEq

namespace Template

/-- A literal text as segments; an empty one is none. -/
def literalSegments (text : List Char) : List Segment :=
  if text.isEmpty then [] else [.literal (String.ofList text)]

/-- The segments of a text, after the literal `text` or, inside a place, also after the start
`name` of its name. Blanks around a name do not count. A place that is not closed is literal
text. -/
def scan (text : List Char) (name : Option (List Char)) : List Char → List Segment
  | [] =>
    match name with
    | none => literalSegments text
    | some name => literalSegments (text ++ '{' :: name)
  | c :: rest =>
    match name with
    | some name =>
      if c = '}' then
        literalSegments text ++ .place (String.ofList (Text.trim name)) :: scan [] none rest
      else scan text (some (name ++ [c])) rest
    | none =>
      -- two braces of a kind are looked for first, so that `{{{name}` opens with the third
      match c, rest with
      | '{', '{' :: rest => scan (text ++ ['{']) none rest
      | '}', '}' :: rest => scan (text ++ ['}']) none rest
      | '{', rest => scan text (some []) rest
      | c, rest => scan (text ++ [c]) none rest

/-- The template that a text writes. -/
def ofText (text : String) : Template :=
  ⟨scan [] none text.toList⟩

/-- The name of a place. -/
def Segment.name? : Segment → Option String
  | .literal _ => none
  | .place name => some name

/-- The names of the places in order, repeats kept. -/
def references (t : Template) : List String :=
  t.segments.filterMap Segment.name?

/-- Whether the template has no places. -/
def isStatic (t : Template) : Bool :=
  t.references.isEmpty

/-- The text of a segment for the sources of a row. -/
def Segment.render (sources : Sources) : Segment → Except RowError String
  | .literal text => .ok text
  | .place name =>
    match sources.find? name with
    | some value => .ok value.display
    | none => .error (.missingSource name)

/-- The text of a template for the sources of a row. The first name that is not bound is an
error. -/
def render (t : Template) (sources : Sources) : Except RowError String :=
  (t.segments.mapM (Segment.render sources)).map String.join

end Template

end RowSignals
