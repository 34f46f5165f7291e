import RowSignals.Json.Basic

/-!
# Sample definitions

Raw definitions for trials: one with a tag and a column of any kind, one that counts by tag, and
one with an interval. They are JSON as a configuration holds it, so a trial runs the reader of
definitions, too.
-/

namespace RowSignals.Samples

/-- An entry of name and type. -/
def entry (name kind : String) : Json :=
  .ofMembers [("name", .string name), ("type", .string kind)]

/-- A definition with some columns. -/
def definition (columns : List Json) : List (String × Json) :=
  [("columns", .array columns), ("name", .string "test query"), ("query", .string "foo"),
   ("tags", .ofStrings ["test:bar"])]

/-- The columns of `basic`. -/
def basicColumns (kind : String) : List Json :=
  [entry "level" "tag", .null, entry "test.foo" kind]

/-- A tag, a position that is ignored, and a column of a kind. -/
def basic (kind : String) : Json :=
  .ofMembers (definition (basicColumns kind))

/-- A count for each tag. -/
def aggregation : Json :=
  .ofMembers (definition [entry "test.foo" "count", entry "tag" "tag"])

/-- A gauge that is run at most once in some seconds. -/
def throttled (seconds : Float) : Json :=
  .ofMembers (("collection_interval", .ofFloat seconds) :: definition (basicColumns "gauge"))

end RowSignals.Samples
