import RowSignals.Definition.Basic
import RowSignals.Definition.Kinds

/-!
# Checking definitions

The fields of a raw definition are checked in a fixed order, so that the first problem is always
the same: the fields of the query, then every column, then every extra. A null field counts as
absent.

* `Definition.nameOf` to `Definition.extraEntries`: the fields of the query, one function each.
* `columnsFrom`, `extrasFrom`: columns and extras with the names that they register. Columns and
  extras share one space of names.
* `Definition.ofJson`: the checked definition, or what is wrong with it.

The check reads names, kinds and whether there is a source. What the other parameters say is
left to compiling, which knows what each kind asks for.
-/

namespace RowSignals

/-- Which queries are accepted. -/
inductive QueryForm where
  /-- Only texts. -/
  | textOnly
  /-- Also mappings and lists. -/
  | structured
  deriving Repr, DecidableEq

namespace Definition

open DefinitionError

/-- A member that is there and not null. -/
def present? (members : Json.Members) (key : String) : Option Json :=
  Json.Members.present? members key

/-! ## Fields of the query -/

/-- The name. -/
def nameOf (members : Json.Members) : Except DefinitionError String :=
  match present? members "name" with
  | none => .error (.missingQueryField "name")
  | some (.string name) => .ok name
  | some _ => .error (.invalidQueryField "name" .text)

/-- What is asked. -/
def queryOf (form : QueryForm) (name : String) (members : Json.Members) :
    Except DefinitionError Json :=
  match present? members "query", form with
  | none, _ => .error (.missingField "query" (.query name))
  | some (.string text), _ => .ok (.string text)
  | some (.object inner), .structured => .ok (.object inner)
  | some (.array items), .structured => .ok (.array items)
  | some _, _ => .error (.invalidField "query" (.query name) .text)

/-- The entries of the columns. -/
def columnEntries (name : String) (members : Json.Members) :
    Except DefinitionError (List Json) :=
  match present? members "columns" with
  | none => .error (.missingField "columns" (.query name))
  | some (.array items) => .ok items
  | some _ => .error (.invalidField "columns" (.query name) .list)

/-- The tags. -/
def tagsOf (name : String) (members : Json.Members) : Except DefinitionError (List String) :=
  match present? members "tags" with
  | none => .ok []
  | some (.array items) =>
    match items.mapM Json.string? with
    | some tags => .ok tags
    | none => .error (.invalidField "tags" (.query name) .texts)
  | some _ => .error (.invalidField "tags" (.query name) .list)

/-- The least number of seconds between two runs. -/
def intervalOf (name : String) (members : Json.Members) :
    Except DefinitionError (Option Float) :=
  match present? members "collection_interval" with
  | none => .ok none
  | some value =>
    match value.float? with
    | some seconds =>
      if 0 < seconds then .ok (some seconds)
      else .error (.invalidField "collection_interval" (.query name) .positiveNumber)
    | none => .error (.invalidField "collection_interval" (.query name) .positiveNumber)

/-- The text in front of metric names. -/
def metricPrefixOf (name : String) (members : Json.Members) :
    Except DefinitionError (Option String) :=
  match present? members "metric_prefix" with
  | none => .ok none
  | some (.string text) =>
    if text = "" then .error (.emptyField "metric_prefix" (.query name)) else .ok (some text)
  | some _ => .error (.invalidField "metric_prefix" (.query name) .text)

/-- The template of the host name. -/
def hostnameOf (name : String) (members : Json.Members) :
    Except DefinitionError (Option String) :=
  match present? members "hostname" with
  | none => .ok none
  | some (.string text) => .ok (some text)
  | some _ => .error (.invalidField "hostname" (.query name) .text)

/-- The entries of the extras. -/
def extraEntries (name : String) (members : Json.Members) :
    Except DefinitionError (List Json) :=
  match present? members "extras" with
  | none => .ok []
  | some (.array items) => .ok items
  | some _ => .error (.invalidField "extras" (.query name) .list)

/-! ## Columns and extras -/

/-- A field that must be there and a text. -/
def textField (key : String) (owner : Owner) (entry : Json.Members) :
    Except DefinitionError String :=
  match present? entry key with
  | none => .error (.missingField key owner)
  | some (.string text) => .ok text
  | some _ => .error (.invalidField key owner .text)

/-- What an entry says besides name and type. -/
def paramsOf (entry : Json.Members) : Params :=
  entry.filter fun (key, _) => key != "name" && key != "type"

/-- Where the names so far were defined. -/
abbrev Names := List (String × Place)

/-- The names with one more, which must be new. -/
def register (names : Names) (name query : String) (place : Place) :
    Except DefinitionError Names :=
  match names.lookup name with
  | some previous => .error (.duplicateName name query previous)
  | none => .ok ((name, place) :: names)

/-- A column entry with a field. -/
def columnField (query : String) (position : Nat) (entry : Json.Members) :
    Except DefinitionError Field := do
  let name ← textField "name" (.columnAt position query) entry
  let owner := Owner.column name query
  let kind ← textField "type" owner entry
  if (ColumnKind.ofName? kind).isNone then .error (.unknownType kind owner)
  else .ok ⟨name, kind, paramsOf entry⟩

/-- A column entry: null and the empty mapping leave the position without a field. -/
def columnEntry (query : String) (position : Nat) : Json → Except DefinitionError (Option Field)
  | .null => .ok none
  | .object [] => .ok none
  | .object entry => (columnField query position entry).map some
  | _ => .error (.notAMapping (.columnAt position query))

/-- The columns from a position on, and all names so far. -/
def columnsFrom (query : String) (names : Names) (position : Nat) :
    List Json → Except DefinitionError (List (Option Field) × Names)
  | [] => .ok ([], names)
  | entry :: entries => do
    let column ← columnEntry query position entry
    let names ← match column with
      | none => .ok names
      | some field => register names field.name query (.column position)
    let (columns, names) ← columnsFrom query names (position + 1) entries
    .ok (column :: columns, names)

/-- The type of an extra; it goes without saying when there is an expression. -/
def extraKindOf (owner : Owner) (entry : Json.Members) : Except DefinitionError String :=
  -- the expression is looked up without regard to null
  match present? entry "type", entry.get? "expression" with
  | none, some _ => .ok ExtraKind.expression.name
  | _, _ => textField "type" owner entry

/-- An extra. -/
def extraField (query : String) (position : Nat) (raw : Json) :
    Except DefinitionError Field := do
  let .object entry := raw | .error (.notAMapping (.extraAt position query))
  let name ← textField "name" (.extraAt position query) entry
  let owner := Owner.extra name query
  let kind ← extraKindOf owner entry
  match ExtraKind.ofName? kind with
  | none => .error (.unknownType kind owner)
  | some (.submit _) =>
    -- the source stays among the parameters and is read again from there
    discard (textField "source" owner entry)
    .ok ⟨name, kind, paramsOf entry⟩
  | some _ => .ok ⟨name, kind, paramsOf entry⟩

/-- The extras from a position on. -/
def extrasFrom (query : String) (names : Names) (position : Nat) :
    List Json → Except DefinitionError (List Field)
  | [] => .ok []
  | entry :: entries => do
    let field ← extraField query position entry
    let names ← register names field.name query (.extra position)
    let fields ← extrasFrom query names (position + 1) entries
    .ok (field :: fields)

/-! ## Definitions -/

/-- The definition that a raw value describes. -/
def ofJson (form : QueryForm) (raw : Json) : Except DefinitionError Definition := do
  let .object members := raw | .error (.notAMapping .definition)
  let name ← nameOf members
  let query ← queryOf form name members
  let columns ← columnEntries name members
  let tags ← tagsOf name members
  let interval ← intervalOf name members
  let metricPrefix ← metricPrefixOf name members
  let hostname ← hostnameOf name members
  let (columns, names) ← columnsFrom name [] 1 columns
  let extras ← extraEntries name members
  let extras ← extrasFrom name names 1 extras
  .ok { name, query, columns, extras, tags, interval, metricPrefix, hostname }

end Definition

end RowSignals
