import RowSignals.Params

/-!
# Definitions of queries

A definition says what is asked and what is done with the rows of the answer: one entry for
every column, and extras that are computed from the columns.

* `Field`: a column or extra with its parameters.
* `Definition`: a definition that was checked.
* `Owner`, `Place`: the part of a configuration that an error is about, and where a name was
  defined. Positions are counted from one, as a reader of the configuration counts.
* `DefinitionError`: what is wrong with a definition.

Errors are data first. Their texts (`DefinitionError.message`) are made from the field, the
owner and the shape that was expected.
-/

namespace RowSignals

/-- A column or extra. -/
structure Field where
  name : String
  kind : String
  /-- What the entry says besides name and type. -/
  params : Params
  deriving Repr

/-- A checked definition. -/
structure Definition where
  name : String
  /-- What is asked; only the runner knows what it means. -/
  query : Json
  /-- One entry for each position of a row; a position without entry is ignored. -/
  columns : List (Option Field)
  extras : List Field
  tags : List String
  /-- The least number of seconds between two runs. -/
  interval : Option Float
  metricPrefix : Option String
  hostname : Option String
  deriving Repr

/-- The part of a configuration that an error is about. -/
inductive Owner where
  | definition
  | query (name : String)
  | columnAt (position : Nat) (query : String)
  | column (name query : String)
  | extraAt (position : Nat) (query : String)
  | extra (name query : String)
  deriving Repr, DecidableEq

/-- The owner of an error in words. -/
def Owner.describe : Owner → String
  | .definition => "query definition"
  | .query n => n
  | .columnAt i q => "column #" ++ toString i ++ " of " ++ q
  | .column n q => "column " ++ n ++ " of " ++ q
  | .extraAt i q => "extra #" ++ toString i ++ " of " ++ q
  | .extra n q => "extra " ++ n ++ " of " ++ q

/-- Where a name was defined. -/
inductive Place where
  | column (position : Nat)
  | extra (position : Nat)
  deriving Repr, DecidableEq

/-- A place in words. -/
def Place.describe : Place → String
  | .column position => "column #" ++ toString position
  | .extra position => "extra #" ++ toString position

/-- What is wrong with a definition. -/
inductive DefinitionError where
  /-- A field is missing that a message about the query would name. -/
  | missingQueryField (field : String)
  | invalidQueryField (field : String) (expected : Shape)
  | missingField (field : String) (owner : Owner)
  | invalidField (field : String) (owner : Owner) (expected : Shape)
  | emptyField (field : String) (owner : Owner)
  | notAMapping (owner : Owner)
  | unknownType (kind : String) (owner : Owner)
  | duplicateName (name query : String) (previous : Place)
  | params (kind : String) (owner : Owner) (error : ParamError)
  | unknownHostnameSource (owner : Owner) (name : String)
  | duplicateQuery (name : String)
  deriving Repr

namespace DefinitionError

/-- What a message says about a definition. -/
def message : DefinitionError → String
  | .missingQueryField field => "query field `" ++ field ++ "` is required"
  | .invalidQueryField field expected =>
    "query field `" ++ field ++ "` must be " ++ expected.describe
  | .missingField field owner =>
    "field `" ++ field ++ "` for " ++ owner.describe ++ " is required"
  | .invalidField field owner expected =>
    "field `" ++ field ++ "` for " ++ owner.describe ++ " must be " ++ expected.describe
  | .emptyField field owner =>
    "field `" ++ field ++ "` for " ++ owner.describe ++ " must not be empty"
  | .notAMapping owner => owner.describe ++ " is not a mapping"
  | .unknownType kind owner => "unknown type `" ++ kind ++ "` for " ++ owner.describe
  | .duplicateName name query previous =>
    "the name " ++ name ++ " of " ++ query ++ " was already defined in " ++ previous.describe
  | .params kind owner error =>
    "error compiling type `" ++ kind ++ "` for " ++ owner.describe ++ ": " ++ error.message
  | .unknownHostnameSource owner name =>
    "field `hostname` for " ++ owner.describe ++ " references unknown source `" ++ name ++ "`"
  | .duplicateQuery name => "query name `" ++ name ++ "` is defined more than once"

/-- Whether the error is an expression that cannot be read. -/
def isInvalidExpression : DefinitionError → Bool
  | .params _ _ (.expression error) => error.isInvalid
  | _ => false

end DefinitionError

end RowSignals
