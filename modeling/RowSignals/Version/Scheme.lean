import RowSignals.Params
import RowSignals.Pattern.Reader
import RowSignals.RowError
import RowSignals.Signal
import RowSignals.Version.Semantic

/-!
# Version schemes

A version is split into named parts, each of which becomes an entry of metadata. The scheme says
how: as a semantic version, or by a pattern whose named captures are the parts.

* `VersionScheme`, `VersionScheme.ofParams`.
* `VersionScheme.captured?`: the parts that the scheme finds.
* `VersionScheme.parts`: these parts, the version as it was given and the name of the scheme, or
  the error of a version that the scheme does not fit.
-/

namespace RowSignals

/-- How a version is split into parts. -/
inductive VersionScheme where
  | semantic
  /-- The named captures of a pattern are the parts. -/
  | captures (source : String) (pattern : ReadPattern)
  deriving Repr

namespace VersionScheme

/-- The scheme that parameters choose; semantic versions when they choose none. -/
def ofParams (params : Params) : Except ParamError VersionScheme := do
  match (← params.optionalText "scheme").getD "semver" with
  | "semver" => .ok .semantic
  | "regex" =>
    let source ← params.nonEmptyText "pattern"
    match Pattern.read? source with
    | some pattern => .ok (.captures source pattern)
    | none => .error .invalidPattern
  | other => .error (.unknownScheme other)

/-- The name of a scheme. -/
def name : VersionScheme → String
  | .semantic => "semver"
  | .captures _ _ => "regex"

/-- The parts of a semantic version that are there, with their names. -/
def semanticParts (v : SemanticVersion) : List (String × String) :=
  let part (name : String) (text : List Char) : String × String := (name, String.ofList text)
  [part "major" v.major, part "minor" v.minor, part "patch" v.patch] ++
    (v.release.map (part "release")).toList ++ (v.build.map (part "build")).toList

/-- The parts that a scheme finds in a version. -/
def captured? (scheme : VersionScheme) (raw : String) : Option (List (String × String)) :=
  match scheme with
  | .semantic => (SemanticVersion.read? raw).map semanticParts
  | .captures _ pattern => pattern.captures? raw

/-- The parts of a version with their names, and then the version itself and the name of the
scheme. -/
def parts (scheme : VersionScheme) (raw : String) : Except RowError (List (String × String)) :=
  match scheme.captured? raw with
  | some found => .ok (found ++ [("raw", raw), ("scheme", scheme.name)])
  | none => .error (.versionMismatch raw scheme.name)

end VersionScheme

end RowSignals
