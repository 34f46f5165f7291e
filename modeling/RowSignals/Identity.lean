import RowSignals.Digest.Sha256
import RowSignals.Json.Writer
import RowSignals.Text.Pieces

/-!
# Query identity

A query is identified by its name and the digest of its raw definition. State that outlives a
compilation is kept under this identity, so that an unchanged definition finds its state again,
and a changed one starts anew.

The digest is taken of the whole raw definition, before it is checked. Two definitions that are
written differently have different identities, even where they mean the same.

* `Identity.of`: the identity of a raw definition.
* `Identity.display`: a short form for people.
-/

namespace RowSignals

/-- The name of a query and the digest of its definition. -/
structure Identity where
  name : String
  digest : String
  deriving Repr, DecidableEq

/-- The identity of a raw definition. The text that is digested lists members in the order of
their keys, so that the order in which they were written does not matter. -/
def Identity.of (name : String) (definition : Json) : Identity :=
  { name := name, digest := Digest.digestHex definition.compact }

/-- The name with the beginning of the digest, twelve bytes of it. -/
def Identity.display (i : Identity) : String :=
  i.name ++ "@" ++ String.ofList (Text.withinBytes 12 i.digest.toList)

end RowSignals
