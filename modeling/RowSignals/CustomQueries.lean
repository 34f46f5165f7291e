import RowSignals.Config

/-!
# Custom queries

Besides the queries of the check itself, users configure queries of their own: for one instance,
or shared by all.

* `mergeCustomQueries`: the queries of an instance and the shared ones under a policy.
* `nameCustomQueries`: queries without a name get one by their position.

Both work on raw definitions, before any of them is checked. What is no mapping or has no name
goes through unchanged, and is reported by the check when its turn comes.
-/

namespace RowSignals

/-- The name of a raw definition, if it is a text. -/
def definitionName? (definition : Json) : Option String :=
  (definition.member? "name").bind Json.string?

/-- Whether a shared query is left out: one of the overridden names, or the same definition is
already there. -/
def isSuperseded (overridden : List String) (merged : List Json) (shared : Json) : Bool :=
  (definitionName? shared).any overridden.contains || merged.any (·.same shared)

/-- The merged queries with the shared queries that are not left out. -/
def extendWith (overridden : List String) (merged : List Json) : List Json → List Json
  | [] => merged
  | shared :: rest =>
    -- a definition that was just taken over counts for the shared ones after it
    if isSuperseded overridden merged shared then extendWith overridden merged rest
    else extendWith overridden (merged ++ [shared]) rest

/-- The queries of an instance, the shared ones, or both. -/
def mergeCustomQueries (own shared : List Json) : GlobalPolicy → List Json
  | .disabled => own
  | .fallback => if own.isEmpty then shared else own
  | .extend => extendWith (own.filterMap definitionName?) own shared

/-- The name of the query at a position. -/
def positionalName (position : Nat) : String :=
  "custom query #" ++ toString position

/-- A definition with a name: a mapping without one is named by its position. -/
def withName (position : Nat) (definition : Json) : Json :=
  match definition with
  | .object members =>
    if (Json.Members.present? members "name").isSome then definition
    else .object (Json.Members.insert "name" (.string (positionalName position)) members)
  | _ => definition

/-- Definitions with names, the first of them at a position. -/
def nameFrom (position : Nat) : List Json → List Json
  | [] => []
  | definition :: rest => withName position definition :: nameFrom (position + 1) rest

/-- Definitions with names; positions are counted from one. -/
def nameCustomQueries (definitions : List Json) : List Json :=
  nameFrom 1 definitions

end RowSignals
