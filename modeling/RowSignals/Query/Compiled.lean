import RowSignals.Definition.Checked
import RowSignals.Extra
import RowSignals.Identity

/-!
# Compiled queries

Compiling a definition resolves everything that does not depend on rows: positions, names,
parameters and expressions. A compiled query is never changed.

* `Column`, `Query`: compiled columns and queries.
* `Query.hostnameOf`, `Query.columnsFrom`, `Query.extrasOf`: the parts, in the order in which
  they are compiled. A column can read all columns, whichever comes first; an extra can read the
  columns and the extras before it.
* `Query.ofJson`: the query of a raw definition, or what is wrong with it.
-/

namespace RowSignals

/-- A column and its position in the row. -/
structure Column where
  index : Nat
  name : String
  transformer : Transformer
  deriving Repr

/-- A compiled query. -/
structure Query where
  definition : Definition
  identity : Identity
  hostname : Option Template
  columns : List Column
  extras : List Extra
  deriving Repr

/-- What compiling a query depends on besides its definition. -/
structure CompileOptions where
  /-- Comes first in metric names. -/
  nameSpace : Option String
  form : QueryForm
  deriving Repr

namespace Query

/-- The name of the query. -/
def name (query : Query) : String := query.definition.name

/-- How many values a row has. -/
def columnCount (query : Query) : Nat := query.definition.columns.length

/-- The host name as a template, whose places must be columns. -/
def hostnameOf (definition : Definition) (sources : List String) :
    Except DefinitionError (Option Template) :=
  match definition.hostname.map Template.ofText with
  | none => .ok none
  | some template =>
    match template.references.find? (!sources.contains ·) with
    | some unknown => .error (.unknownHostnameSource (.query definition.name) unknown)
    | none => .ok (some template)

/-- The columns from a position on. Positions without a field have no column. -/
def columnsFrom (scope : Scope) (query : String) (index : Nat) :
    List (Option Field) → Except DefinitionError (List Column)
  | [] => .ok []
  | none :: fields => columnsFrom scope query (index + 1) fields
  | some field :: fields =>
    match Transformer.ofParams scope field.kind field.name field.params with
    | .error error => .error (.params field.kind (.column field.name query) error)
    | .ok transformer => do
      let columns ← columnsFrom scope query (index + 1) fields
      .ok (⟨index, field.name, transformer⟩ :: columns)

/-- The extras, each of which can read the ones before it. -/
def extrasOf (scope : Scope) (query : String) : List Field → Except DefinitionError (List Extra)
  | [] => .ok []
  | field :: fields => do
    let extra ← Extra.ofField scope query field
    let extras ← extrasOf { scope with sources := scope.sources ++ [extra.name] } query fields
    .ok (extra :: extras)

/-- The query of a checked definition. -/
def ofDefinition (options : CompileOptions) (identity : Identity) (definition : Definition) :
    Except DefinitionError Query := do
  let sources := definition.columns.filterMap fun column => column.map (·.name)
  let hostname ← hostnameOf definition sources
  let scope : Scope := ⟨options.nameSpace, definition.metricPrefix, sources⟩
  let columns ← columnsFrom scope definition.name 0 definition.columns
  let extras ← extrasOf scope definition.name definition.extras
  .ok { definition, identity, hostname, columns, extras }

/-- The query of a raw definition. -/
def ofJson (options : CompileOptions) (raw : Json) : Except DefinitionError Query := do
  let definition ← Definition.ofJson options.form raw
  ofDefinition options (Identity.of definition.name raw) definition

end Query

end RowSignals
