import RowSignals.CustomQueries
import RowSignals.Executor

/-!
# Managers

A manager runs the queries of a check together with the custom queries of its configuration, in
one executor.

* `Manager.new`: the queries of the check come first; the tags of the instance come after those
  of the options.
* `Manager.ofYaml`: a manager from YAML texts, compiled. A text that is no configuration is
  reported as such, without the words of the reader that refused it.
-/

namespace RowSignals

/-- The executor of a check. -/
structure Manager where
  executor : Executor

/-- What keeps a manager from being made. -/
inductive ManagerError where
  /-- A text is no configuration. -/
  | config
  | definition (error : DefinitionError)
  deriving Repr

namespace Manager

/-- A manager before its definitions are compiled. -/
def new (checkQueries : List Json) (init : InitConfig) (own : InstanceConfig)
    (options : Options) : Manager :=
  let custom := nameCustomQueries
    (mergeCustomQueries own.customQueries init.globalCustomQueries own.policy)
  ⟨.new { options with tags := options.tags ++ own.tags } (checkQueries ++ custom)⟩

/-- A compiled manager, from the YAML texts of both scopes. -/
def ofYaml (checkQueries : List Json) (init own : String) (options : Options) :
    Except ManagerError (Manager × Activity) :=
  match InitConfig.ofYaml? init, InstanceConfig.ofYaml? own with
  | some init, some own =>
    match (new checkQueries init own options).executor.compile with
    | (.ok activity, executor) => .ok (⟨executor⟩, activity)
    | (.error error, _) => .error (.definition error)
  | _, _ => .error .config

/-- The manager for inspection. -/
def outline (manager : Manager) : Text.Outline :=
  .record "QueryManager" [("executor", manager.executor.outline)] false

end Manager

end RowSignals
