import RowSignals.Affirmative
import RowSignals.Yaml.Plain

/-!
# Configuration

A check is configured in two scopes: the queries that all instances share, and the settings of
one instance. Both are written in YAML or given as JSON. A list may stand for a mapping: its
items are the fields in their order.

* `GlobalPolicy`: how an instance combines its queries with the shared ones.
* `InitConfig`, `InstanceConfig`: the scopes, each with `ofJson?` and `ofYaml?`.
* `ofFields?`: a scope from the values of its fields. It is the same for both notations, which
  only differ in how a value is read as a list of queries, a setting or a list of texts.

In YAML a field is read by what is asked for: a plain scalar is a text where texts are asked
for, and may be a number, a flag or null where a setting is. So `tags: [1]` is a tag, though `1`
alone is a number.
-/

namespace RowSignals

/-- How an instance combines its own queries with the shared ones. -/
inductive GlobalPolicy where
  /-- Its own queries if there are any, else the shared ones. -/
  | fallback
  /-- Its own queries, and the shared ones that they do not override. -/
  | extend
  /-- Only its own queries. -/
  | disabled
  deriving Repr, DecidableEq

namespace GlobalPolicy

/-- The policy of a setting: the word `extend`, or else whether the setting says yes. -/
def ofJson (setting : Json) : GlobalPolicy :=
  if setting.string?.any fun text =>
      String.ofList (text.toList.map Char.toLower) = "extend" then .extend
  else if isAffirmative setting then .fallback
  else .disabled

/-- The name of a policy. -/
def name : GlobalPolicy → String
  | .fallback => "default"
  | .extend => "extend"
  | .disabled => "disabled"

end GlobalPolicy

/-- The queries that all instances share. -/
structure InitConfig where
  globalCustomQueries : List Json := []
  deriving Repr

/-- The settings of one instance. -/
structure InstanceConfig where
  customQueries : List Json := []
  policy : GlobalPolicy := .fallback
  tags : List String := []
  deriving Repr

namespace InitConfig

/-- The fields in their order. -/
def fields : List String := ["global_custom_queries"]

/-- The configuration of fields in the order of `fields`, some of which may be missing. -/
def ofFields? {α : Type} (queries? : α → Option (List Json)) (values : List (Option α)) :
    Option InitConfig := do
  match values with
  | [queries] => return { globalCustomQueries := ← queries.elim (some []) queries? }
  | _ => none

end InitConfig

namespace InstanceConfig

/-- The fields in their order. -/
def fields : List String := ["custom_queries", "use_global_custom_queries", "tags"]

/-- The configuration of fields in the order of `fields`, some of which may be missing. -/
def ofFields? {α : Type} (queries? : α → Option (List Json)) (setting? : α → Option Json)
    (texts? : α → Option (List String)) (values : List (Option α)) : Option InstanceConfig := do
  match values with
  | [queries, policy, tags] =>
    return {
      customQueries := ← queries.elim (some []) queries?
      policy := ← policy.elim (some .fallback) fun value => (setting? value).map .ofJson
      tags := ← tags.elim (some []) texts? }
  | _ => none

end InstanceConfig

/-! ## JSON -/

/-- The values of the fields in a JSON mapping or list. -/
def Json.fields? (names : List String) : Json → Option (List (Option Json))
  | .object members => some (names.map (Members.get? members))
  | .array items =>
    if items.length ≤ names.length then some ((List.range names.length).map (items[·]?))
    else none
  | _ => none

/-- The configuration that a JSON value describes. -/
def InitConfig.ofJson? (value : Json) : Option InitConfig :=
  (value.fields? fields).bind (ofFields? Json.items?)

/-- The configuration that a JSON value describes. -/
def InstanceConfig.ofJson? (value : Json) : Option InstanceConfig :=
  (value.fields? fields).bind (ofFields? Json.items? some Json.strings?)

/-! ## YAML -/

namespace Yaml.Node

/-- The items of a sequence; a missing node is an empty one. -/
def items? : Node → Option (List Node)
  | .sequence _ items => some items
  | .scalar _ true "" => some []
  | _ => none

/-- The most collections that may lie in each other in a field, the mapping of the fields not
counted. -/
def fieldLevels : Nat := 127

/-- The JSON value of a field. -/
def fieldJson? (node : Node) : Option Json :=
  if node.levels ≤ fieldLevels then node.json? else none

/-- The items of a sequence as JSON values. -/
def jsonItemsOf? (node : Node) : Option (List Json) :=
  if node.levels ≤ fieldLevels then node.items?.bind jsonItems? else none

/-- The texts of a sequence of scalars. -/
def textsOf? (node : Node) : Option (List String) :=
  node.items?.bind fun items => items.mapM text?

/-- The values of the fields in a mapping with scalar keys, of which no field is repeated, or in
a sequence. A missing node has no fields. -/
def fields? (names : List String) (node : Node) : Option (List (Option Node)) :=
  match node with
  | .mapping _ entries => do
    let named ← entries.mapM fun (key, value) => key.text?.map fun name => (name, value)
    if names.all fun name => (named.filter (·.1 == name)).length ≤ 1 then
      some (names.map fun name => named.lookup name)
    else none
  | .sequence _ items =>
    if items.length ≤ names.length then some ((List.range names.length).map (items[·]?))
    else none
  | .scalar _ true "" => some (names.map fun _ => none)
  | _ => none

end Yaml.Node

/-- The configuration that a YAML text describes. -/
def InitConfig.ofYaml? (text : String) : Option InitConfig := do
  (← (← Yaml.Node.read? text).fields? fields) |> ofFields? Yaml.Node.jsonItemsOf?

/-- The configuration that a YAML text describes. -/
def InstanceConfig.ofYaml? (text : String) : Option InstanceConfig := do
  (← (← Yaml.Node.read? text).fields? fields) |>
    ofFields? Yaml.Node.jsonItemsOf? Yaml.Node.fieldJson? Yaml.Node.textsOf?

end RowSignals
