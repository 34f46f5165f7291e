/-!
# Tokens of YAML

Indentation and the places of mapping keys are only implied by a YAML text. Its tokens spell
them out, so that what they mean does not depend on lines and columns any more. A block
collection has a start and an end like one in brackets, and every key and value of a mapping is
announced by a token of its own.
-/

namespace RowSignals.Yaml

/-- A token. -/
inductive Token where
  /-- The version that a document claims to follow. -/
  | version (major minor : Nat)
  /-- A short form for the beginnings of tags. -/
  | tagHandle (handle start : List Char)
  | documentStart
  | documentEnd
  | blockSequenceStart
  | blockMappingStart
  | blockEnd
  | flowSequenceStart
  | flowSequenceEnd
  | flowMappingStart
  | flowMappingEnd
  | blockEntry
  | flowEntry
  | key
  | value
  | alias (name : List Char)
  | anchor (name : List Char)
  | tag (text : List Char)
  /-- A scalar; `plain` tells that it is written without quotes on the lines of its
  collection. -/
  | scalar (plain : Bool) (text : List Char)
  deriving Repr, DecidableEq

end RowSignals.Yaml
