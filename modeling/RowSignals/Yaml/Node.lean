import RowSignals.Yaml.Scanner

/-!
# Nodes of YAML

A YAML text is a tree of scalars, sequences and mappings. Anchors and aliases are resolved while
it is read, so an alias is a copy of its node. Tags are kept in full, and what they mean is left
to those who ask for a value.

* `Node`: the tree; `Node.levels`: how deep it is.
* `Read`: reading from tokens, which may fail.
* `Read.node` and the functions beside it: one for each kind of collection, block and flow. Each
  call spends fuel; a token is looked at by at most four of them in a row.
* `Node.read?`: the node of a text that is a single document. A text without content is a
  missing node.
-/

namespace RowSignals.Yaml

/-- A node. Its tag, if it has one, is kept in full. -/
inductive Node where
  /-- A text; `plain` tells that it is written without quotes. -/
  | scalar (tag : Option String) (plain : Bool) (text : String)
  | sequence (tag : Option String) (items : List Node)
  | mapping (tag : Option String) (entries : List (Node × Node))
  deriving Repr, Inhabited

namespace Node

/-- The node that stands where nothing is written. -/
def missing : Node := .scalar none true ""

mutual

/-- How many collections lie in each other. -/
def levels : Node → Nat
  | .scalar _ _ _ => 0
  | .sequence _ items => itemLevels items + 1
  | .mapping _ entries => entryLevels entries + 1

/-- The most levels of some items. -/
def itemLevels : List Node → Nat
  | [] => 0
  | item :: items => max item.levels (itemLevels items)

/-- The most levels of the values of some entries. -/
def entryLevels : List (Node × Node) → Nat
  | [] => 0
  | (_, value) :: entries => max value.levels (entryLevels entries)

end

/-- What is left to be read, and the names that were given. A node that is still being read has
its name without a node. -/
structure Input where
  tokens : List Token
  anchors : List (String × Option Node) := []
  handles : List (String × String) := []

/-- Reading nodes, which may fail. -/
abbrev Read := StateT Input Option

namespace Read

/-- The tokens are no tree. -/
def fail {α : Type} : Read α := fun _ => none

/-- The next token. -/
def peek : Read (Option Token) := do return (← get).tokens.head?

/-- Take the next token. -/
def skip : Read Unit := modify fun s => { s with tokens := s.tokens.drop 1 }

/-- Whether the next token is one of some tokens, or there is none. -/
def endsBefore (tokens : List Token) : Read Bool := do
  return (← peek).all fun token => tokens.contains token

/-- Whether a token comes next; it is taken. -/
def take (token : Token) : Read Bool := do
  if (← peek) = some token then
    skip
    return true
  else return false

/-- A tag in full. -/
def fullTag (handles : List (String × String)) (text : List Char) : Option String :=
  match text with
  | '!' :: '<' :: rest => some (String.ofList rest)
  | '!' :: rest =>
    match Text.splitFirst? (· == '!') rest with
    | some (name, suffix) =>
      let handle := String.ofList ('!' :: name ++ ['!'])
      match handles.lookup handle with
      | some start => some (start ++ String.ofList suffix)
      | none =>
        if handle = "!!" then some ("tag:yaml.org,2002:" ++ String.ofList suffix) else none
    | none => some ((handles.lookup "!").getD "!" ++ String.ofList rest)
  | _ => none

/-- Anchor and tag in front of a node, in either order. -/
def properties : Read (Option String × Option String) := do
  let anchor : Read (Option String) := do
    match ← peek with
    | some (.anchor name) => do skip; return some (String.ofList name)
    | _ => return none
  let tag : Read (Option String) := do
    match ← peek with
    | some (.tag text) =>
      skip
      match fullTag (← get).handles text with
      | some tag => return some tag
      | none => fail
    | _ => return none
  match ← anchor with
  | some name => return (some name, ← tag)
  | none =>
    let tag ← tag
    return (← anchor, tag)

/-- Give a node its name. -/
def name (anchor : Option String) (node : Option Node) : Read Unit :=
  match anchor with
  | some anchor => modify fun s => { s with anchors := (anchor, node) :: s.anchors }
  | none => pure ()

/-- The node of an alias. -/
def aliased (name : String) : Read Node := do
  match (← get).anchors.lookup name with
  | some (some node) => return node
  | _ => fail

mutual

/-- A node. `block` allows block collections, `flush` allows a sequence that is not indented in
its mapping. -/
def node (block flush : Bool) : Nat → Read Node
  | 0 => fail
  | fuel + 1 => do
    match ← peek with
    | some (.alias text) => do
      skip
      aliased (String.ofList text)
    | _ => do
      let (anchor, tag) ← properties
      -- the name hides an earlier one at once, so that a node cannot stand inside itself
      name anchor none
      let found ← content block flush tag (anchor.isSome || tag.isSome) fuel
      name anchor (some found)
      return found

/-- The content of a node after its properties; with properties it may be missing. -/
def content (block flush : Bool) (tag : Option String) (mayMiss : Bool) : Nat → Read Node
  | 0 => fail
  | fuel + 1 => do
    match ← peek with
    | some (.scalar plain text) => do
      skip
      -- the tag of an exclamation mark alone says that a scalar has none
      return .scalar (tag.filter (· != "!")) plain (String.ofList text)
    | some .flowSequenceStart => do
      skip
      return .sequence tag (← flowItems true fuel)
    | some .flowMappingStart => do
      skip
      return .mapping tag (← flowEntries true fuel)
    | some .blockSequenceStart =>
      if block then
        skip
        return .sequence tag (← blockItems fuel)
      else absent
    | some .blockMappingStart =>
      if block then
        skip
        return .mapping tag (← blockEntries fuel)
      else absent
    | some .blockEntry => if flush then return .sequence tag (← flushItems fuel) else absent
    | _ => absent
where
  absent : Read Node :=
    if mayMiss then return .scalar tag true "" else fail

/-- A node, or nothing in front of some tokens. -/
def nodeUnless (stops : List Token) (block flush : Bool) : Nat → Read Node
  | 0 => fail
  | fuel + 1 => do
    if ← endsBefore stops then return missing else node block flush fuel

/-- The items of a block sequence. -/
def blockItems : Nat → Read (List Node)
  | 0 => fail
  | fuel + 1 => do
    if ← take .blockEntry then
      let item ← nodeUnless [.blockEntry, .blockEnd] true false fuel
      return item :: (← blockItems fuel)
    else if ← take .blockEnd then return []
    else fail

/-- The items of a sequence that is not indented in its mapping. -/
def flushItems : Nat → Read (List Node)
  | 0 => fail
  | fuel + 1 => do
    if ← take .blockEntry then
      let item ← nodeUnless [.blockEntry, .key, .value, .blockEnd] true false fuel
      return item :: (← flushItems fuel)
    else return []

/-- The entries of a block mapping. -/
def blockEntries : Nat → Read (List (Node × Node))
  | 0 => fail
  | fuel + 1 => do
    if ← take .key then
      let key ← nodeUnless [.key, .value, .blockEnd] true true fuel
      let value ← valueUnless [.key, .value, .blockEnd] true fuel
      return (key, value) :: (← blockEntries fuel)
    else if ← take .blockEnd then return []
    else fail

/-- The value after a key, or nothing in front of some tokens. -/
def valueUnless (stops : List Token) (block : Bool) : Nat → Read Node
  | 0 => fail
  | fuel + 1 => do
    if ← take .value then nodeUnless stops block block fuel else return missing

/-- The items of a flow sequence. An item may be a single entry of a mapping. -/
def flowItems (first : Bool) : Nat → Read (List Node)
  | 0 => fail
  | fuel + 1 => do
    if ← take .flowSequenceEnd then return []
    else
      if !first && !(← take .flowEntry) then fail
      -- a comma may follow the last item
      if ← take .flowSequenceEnd then return []
      else if ← take .key then
        let key ← nodeUnless [.value, .flowEntry, .flowSequenceEnd] false false fuel
        let value ← valueUnless [.flowEntry, .flowSequenceEnd] false fuel
        return .mapping none [(key, value)] :: (← flowItems false fuel)
      else
        let item ← node false false fuel
        return item :: (← flowItems false fuel)

/-- The entries of a flow mapping. An entry may be a key alone. -/
def flowEntries (first : Bool) : Nat → Read (List (Node × Node))
  | 0 => fail
  | fuel + 1 => do
    if ← take .flowMappingEnd then return []
    else
      if !first && !(← take .flowEntry) then fail
      if ← take .flowMappingEnd then return []
      else if ← take .key then
        let key ← nodeUnless [.value, .flowEntry, .flowMappingEnd] false false fuel
        let value ← valueUnless [.flowEntry, .flowMappingEnd] false fuel
        return (key, value) :: (← flowEntries false fuel)
      else
        let key ← node false false fuel
        return (key, missing) :: (← flowEntries false fuel)

end

/-- The directives in front of a document: a version at most once, which must be a known one,
and short forms of tags. -/
def directives (versionSeen : Bool) : Nat → Read Bool
  | 0 => fail
  | fuel + 1 => do
    match ← peek with
    | some (.version major minor) => do
      if versionSeen || major ≠ 1 || (minor ≠ 1 && minor ≠ 2) then fail
      skip
      discard (directives true fuel)
      return true
    | some (.tagHandle handle start) => do
      let handle := String.ofList handle
      if ((← get).handles.lookup handle).isSome then fail
      modify fun s => { s with handles := (handle, String.ofList start) :: s.handles }
      skip
      discard (directives versionSeen fuel)
      return true
    | _ => return false

/-- The only document of a text, which may be missing. -/
def document (fuel : Nat) : Read Node := do
  let directed ← directives false fuel
  let explicit ← take .documentStart
  if directed && !explicit then fail
  if !explicit && (← peek).isNone then return missing
  let root ←
    if explicit && (← endsBefore [.documentStart, .documentEnd]) then pure missing
    else node true false fuel
  discard (takeEnds fuel)
  if (← peek).isNone then return root else fail
where
  takeEnds : Nat → Read Unit
    | 0 => pure ()
    | fuel + 1 => do
      if ← take .documentEnd then takeEnds fuel

end Read

/-- The node of a text; a text without content is a missing node. -/
def read? (text : String) : Option Node :=
  (tokens? text).bind fun tokens =>
    ((Read.document (4 * tokens.length + 4)).run { tokens := tokens }).map (·.1)

end Node

end RowSignals.Yaml
