import RowSignals.Text.Quoted

/-!
# Outlines of structured data

An outline shows the structure of a piece of data for inspection: names with fields, items of
lists, entries of maps. It is written on one line, or over many with four blanks of indentation
per level. Tokens, trees, transformers and traces are shown this way.

* `Outline`: the tree.
* `Outline.line`: on one line.
* `Outline.block`: over many lines; every part stands on a line of its own and ends in a comma,
  the last one included.

Both are defined by recursion over the tree together with the lists of its parts, so the fields
of a record or the items of a list have functions of their own.
-/

namespace RowSignals.Text

/-- The structure of a piece of data. -/
inductive Outline where
  | atom (text : String)
  /-- A name with positional parts; a pair has no name. -/
  | tuple (name : String) (parts : List Outline)
  /-- A name with named parts; an elided record ends in two points, since more parts are not
  shown. -/
  | record (name : String) (fields : List (String × Outline)) (elided : Bool)
  | list (items : List Outline)
  | map (entries : List (Outline × Outline))
  deriving Repr

namespace Outline

/-- A quoted text. -/
def text (s : String) : Outline :=
  .atom (quoted s)

/-- A list of quoted texts. -/
def texts (items : List String) : Outline :=
  .list (items.map text)

/-- An optional part. -/
def option {α : Type} (f : α → Outline) : Option α → Outline
  | none => .atom "None"
  | some a => .tuple "Some" [f a]

mutual

/-- An outline on one line. -/
def line : Outline → String
  | .atom text => text
  | .tuple name [] => name
  | .tuple name (part :: parts) =>
    name ++ "(" ++ ", ".intercalate (line part :: itemLines parts) ++ ")"
  | .record name fields elided =>
    let parts := fieldLines fields ++ if elided then [".."] else []
    name ++ " \x7b " ++ ", ".intercalate parts ++ " \x7d"
  | .list items => "[" ++ ", ".intercalate (itemLines items) ++ "]"
  | .map entries => "\x7b" ++ ", ".intercalate (entryLines entries) ++ "\x7d"

/-- The items of a list, one text each. -/
def itemLines : List Outline → List String
  | [] => []
  | item :: items => line item :: itemLines items

/-- The fields of a record, one text each. -/
def fieldLines : List (String × Outline) → List String
  | [] => []
  | (name, value) :: fields => (name ++ ": " ++ line value) :: fieldLines fields

/-- The entries of a map, one text each. -/
def entryLines : List (Outline × Outline) → List String
  | [] => []
  | (key, value) :: entries => (line key ++ ": " ++ line value) :: entryLines entries

end

/-- The blanks in front of a line at a level. -/
def indent (level : Nat) : String :=
  String.ofList (List.replicate (4 * level) ' ')

/-- Parts over many lines between an opening and a closing sign; the sign alone when there are
none. -/
def bracketed (level : Nat) (opening closing : String) (parts : List String) : String :=
  if parts.isEmpty then opening ++ closing
  else
    opening ++ "\n" ++
      String.join (parts.map fun part => indent (level + 1) ++ part ++ ",\n") ++
      indent level ++ closing

mutual

/-- An outline over many lines, its first one at a level. -/
def block (level : Nat) : Outline → String
  | .atom text => text
  | .tuple name [] => name
  | .tuple name (part :: parts) =>
    name ++ bracketed level "(" ")" (block (level + 1) part :: itemBlocks (level + 1) parts)
  -- the mark of an elided record is left out over many lines
  | .record name fields _ =>
    name ++ " " ++ bracketed level "\x7b" "\x7d" (fieldBlocks (level + 1) fields)
  | .list items => bracketed level "[" "]" (itemBlocks (level + 1) items)
  | .map entries => bracketed level "\x7b" "\x7d" (entryBlocks (level + 1) entries)

/-- The items of a list over many lines. -/
def itemBlocks (level : Nat) : List Outline → List String
  | [] => []
  | item :: items => block level item :: itemBlocks level items

/-- The fields of a record over many lines. -/
def fieldBlocks (level : Nat) : List (String × Outline) → List String
  | [] => []
  | (name, value) :: fields => (name ++ ": " ++ block level value) :: fieldBlocks level fields

/-- The entries of a map over many lines. -/
def entryBlocks (level : Nat) : List (Outline × Outline) → List String
  | [] => []
  | (key, value) :: entries =>
    (block level key ++ ": " ++ block level value) :: entryBlocks level entries

end

end Outline

end RowSignals.Text
