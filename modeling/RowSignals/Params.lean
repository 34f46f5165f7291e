import RowSignals.Affirmative
import RowSignals.Expr.Compiled

/-!
# Parameters

The parameters of a column, an extra or a match item are the members of its mapping. A null
parameter counts as absent.

* `Shape`: what a parameter is expected to be.
* `ParamError`: what is wrong with a parameter, with the message that says so.
* `Params`: the parameters, with one reader per shape.

Every reader asks for a parameter by `Params.find?`, so that none of them can tell a null from a
parameter that is not there. The readers answer with errors that name the parameter; which entry
it belongs to is added by whoever compiles the entry.
-/

namespace RowSignals

/-- What a field or parameter is expected to be. -/
inductive Shape where
  | text
  | mapping
  | list
  | texts
  | positiveNumber
  deriving Repr, DecidableEq

/-- A shape in words. -/
def Shape.describe : Shape → String
  | .text => "a string"
  | .mapping => "a mapping"
  | .list => "a list"
  | .texts => "a list of strings"
  | .positiveNumber => "a positive number"

/-- What is wrong with the parameters of a column, an extra or a match item. -/
inductive ParamError where
  | missing (param : String)
  | invalid (param : String) (expected : Shape)
  | empty (param : String)
  /-- A text that names no part of a second. -/
  | unknownScale
  /-- A number of parts of a second that is not whole and positive. -/
  | invalidScale
  | itemNotAMapping (item : String)
  | missingInItem (param item : String)
  | invalidInItem (param item : String)
  | unknownItemType (kind item : String)
  /-- An error in the parameters of a match item. -/
  | inItem (kind item : String) (error : ParamError)
  | unknownSubmitType (kind : String)
  | unavailableSource (param name : String)
  | statusNotText (status value : String)
  | invalidStatus (status value : String)
  | unknownTemplateSource (name : String)
  /-- A text that is no pattern. What is wrong with it is not told. -/
  | invalidPattern
  | unknownScheme (name : String)
  | expression (error : ExprError)
  deriving Repr

namespace ParamError

/-- What a message says about a parameter. -/
def message : ParamError → String
  | .missing param => "the `" ++ param ++ "` parameter is required"
  | .invalid param expected => "the `" ++ param ++ "` parameter must be " ++ expected.describe
  | .empty param => "the `" ++ param ++ "` parameter must not be empty"
  | .unknownScale =>
    "the `scale` parameter must be one of: microsecond, millisecond, nanosecond, second"
  | .invalidScale =>
    "the `scale` parameter must be an integer representing parts of a second " ++
      "e.g. 1000 for millisecond"
  | .itemNotAMapping item => "item `" ++ item ++ "` is not a mapping"
  | .missingInItem param item =>
    "the `" ++ param ++ "` parameter for item `" ++ item ++ "` is required"
  | .invalidInItem param item =>
    "the `" ++ param ++ "` parameter for item `" ++ item ++ "` must be a string"
  | .unknownItemType kind item => "unknown type `" ++ kind ++ "` for item `" ++ item ++ "`"
  | .inItem kind item error =>
    "error compiling type `" ++ kind ++ "` for item `" ++ item ++ "`: " ++ error.message
  | .unknownSubmitType kind => "unknown submit_type `" ++ kind ++ "`"
  | .unavailableSource param name =>
    "the `" ++ param ++ "` parameter `" ++ name ++ "` is not an available source"
  | .statusNotText status value =>
    "status `" ++ status ++ "` for value `" ++ value ++
      "` of parameter `status_map` is not a string"
  | .invalidStatus status value =>
    "invalid status `" ++ status ++ "` for value `" ++ value ++ "` of parameter `status_map`"
  | .unknownTemplateSource name =>
    "the `message` parameter references unknown source `" ++ name ++ "`"
  | .invalidPattern => "the `pattern` parameter is not a valid regular expression"
  | .unknownScheme name => "unknown version scheme `" ++ name ++ "`"
  | .expression error => error.message

end ParamError

/-- The parameters of a column, an extra or a match item. -/
abbrev Params := Json.Members

namespace Params

/-- A parameter that is there and not null. -/
def find? (params : Params) (key : String) : Option Json :=
  Json.Members.present? params key

/-- A parameter that must be there. -/
def required (params : Params) (key : String) : Except ParamError Json :=
  match params.find? key with
  | some value => .ok value
  | none => .error (.missing key)

/-- A parameter that must be there and a text. -/
def requiredText (params : Params) (key : String) : Except ParamError String := do
  match ← params.required key with
  | .string text => .ok text
  | _ => .error (.invalid key .text)

/-- A parameter that must be there and a text that is not empty. -/
def nonEmptyText (params : Params) (key : String) : Except ParamError String := do
  let text ← params.requiredText key
  if text = "" then .error (.empty key) else .ok text

/-- A parameter that must be a text if it is there. -/
def optionalText (params : Params) (key : String) : Except ParamError (Option String) :=
  match params.find? key with
  | none => .ok none
  | some (.string text) => .ok (some text)
  | some _ => .error (.invalid key .text)

/-- A parameter that must be there and a mapping. -/
def requiredMapping (params : Params) (key : String) : Except ParamError Json.Members := do
  match ← params.required key with
  | .object members => .ok members
  | _ => .error (.invalid key .mapping)

/-- Whether a parameter says yes. -/
def flag (params : Params) (key : String) : Bool :=
  (params.find? key).any isAffirmative

/-- The tags that replace those of the row. -/
def tags (params : Params) : Except ParamError (Option (List String)) :=
  match params.find? "tags" with
  | none => .ok none
  | some value =>
    match value.strings? with
    | some texts => .ok (some texts)
    | none => .error (.invalid "tags" .texts)

end Params

end RowSignals
