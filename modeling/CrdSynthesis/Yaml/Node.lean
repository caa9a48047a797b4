import CrdSynthesis.Yaml.Token

/-!
# Nodes

The structure of a YAML document: scalars, sequences and mappings, each perhaps tagged and
marked, and references to marked nodes. A node is read from the tokens of its text.

## Main definitions

* `Yaml.Node`: a node
* `Yaml.Node.marked`: the marked nodes within a node
* `Yaml.Node.size`: how long the written form of a node is
* `Yaml.node?`: the node in front of some tokens
* `Yaml.document?`: the one document of a text, if the text has any
-/

namespace CrdSynthesis.Yaml

/-- What is said of a node before its content. -/
structure Properties where
  anchor : Option Nat := none
  tag : Option String := none
  deriving DecidableEq

/-- A node: a scalar, a collection of nodes, or a reference to one that is marked. -/
inductive Node where
  | scalar (properties : Properties) (text : String) (plain : Bool)
  | sequence (properties : Properties) (items : List Node)
  | mapping (properties : Properties) (entries : List (Node × Node))
  | reference (number : Nat)
  deriving Inhabited

namespace Node

/-- A node that is not written. -/
def absent : Node := scalar {} "" true

/-- What is said of a node before its content; a reference has nothing of the kind. -/
def properties : Node → Properties
  | scalar properties _ _ => properties
  | sequence properties _ => properties
  | mapping properties _ => properties
  | reference _ => {}

/-- The node itself, if it is marked. -/
def mark (node : Node) : List (Nat × Node) :=
  (node.properties.anchor.map fun number => (number, node)).toList

mutual

/-- The marked nodes within a node, in the order of the text. -/
def marked : Node → List (Nat × Node)
  | scalar properties text plain => mark (scalar properties text plain)
  | sequence properties items => mark (sequence properties items) ++ markedItems items
  | mapping properties entries => mark (mapping properties entries) ++ markedEntries entries
  | reference _ => []

/-- The marked nodes within items. -/
def markedItems : List Node → List (Nat × Node)
  | [] => []
  | item :: items => marked item ++ markedItems items

/-- The marked nodes within keys and values. -/
def markedEntries : List (Node × Node) → List (Nat × Node)
  | [] => []
  | (key, value) :: entries => marked key ++ marked value ++ markedEntries entries

end

mutual

/-- The number of scalars and references, and of the ends of sequences and mappings. -/
def size : Node → Nat
  | scalar _ _ _ => 1
  | sequence _ items => 2 + sizeItems items
  | mapping _ entries => 2 + sizeEntries entries
  | reference _ => 1

/-- The size of items together. -/
def sizeItems : List Node → Nat
  | [] => 0
  | item :: items => size item + sizeItems items

/-- The size of keys and values together. -/
def sizeEntries : List (Node × Node) → Nat
  | [] => 0
  | (key, value) :: entries => size key + size value + sizeEntries entries

end

end Node

/-! ## From tokens to nodes

Every function here reads a part of a document in front of the remaining tokens and returns what
follows it. A node that is not written is an empty scalar.
-/

/-- What the handles of tags stand for. -/
abbrev Handles := Table String

/-- Where a node stands, which decides the forms it may take. -/
inductive Place where
  /-- In a document or a sequence. -/
  | block
  /-- In a mapping, where a sequence need not be indented. -/
  | blockMapping
  /-- Within brackets. -/
  | flow
  deriving DecidableEq

/-! ### Properties -/

/-- The tag that a handle and a suffix stand for. -/
def expandTag? (handles : Handles) (handle suffix : String) : Option String :=
  if handle = "" then some suffix else (Table.find? handle handles).map (· ++ suffix)

/-- The properties in front: an anchor, a tag or both in either order. -/
def properties? (handles : Handles) : List Token → Option (Properties × List Token)
  | .anchor number :: .tag handle suffix :: rest => do
    let tag ← expandTag? handles handle suffix
    some ({ anchor := some number, tag := some tag }, rest)
  | .tag handle suffix :: .anchor number :: rest => do
    let tag ← expandTag? handles handle suffix
    some ({ anchor := some number, tag := some tag }, rest)
  | .anchor number :: rest => some ({ anchor := some number }, rest)
  | .tag handle suffix :: rest => do
    let tag ← expandTag? handles handle suffix
    some ({ tag := some tag }, rest)
  | rest => some ({}, rest)

/-! ### Nodes -/

/-- A node, or nothing where one of the tokens `stops` is in front. -/
def nodeUnless? (stops : List Token) (node? : List Token → Option (Node × List Token))
    (tokens : List Token) : Option (Node × List Token) :=
  if tokens.head?.any stops.contains then some (.absent, tokens) else node? tokens

mutual

/-- A node in front. Every call of these functions has a token fewer than the call before the
last, so twice the number of tokens is enough `fuel`. -/
def node? (handles : Handles) : (fuel : Nat) → Place → List Token →
    Option (Node × List Token)
  | 0, _, _ => none
  | _ + 1, _, .reference number :: rest => some (.reference number, rest)
  | fuel + 1, place, tokens => do
    let (properties, tokens) ← properties? handles tokens
    match place, tokens with
    | .blockMapping, .blockEntry :: rest =>
      let (items, rest) ← unindentedItems? handles fuel (.blockEntry :: rest)
      some (.sequence properties items, rest)
    | _, .scalar text plain :: rest => some (.scalar properties text plain, rest)
    | _, .flowSequenceStart :: rest =>
      let (items, rest) ← flowItems? handles fuel rest
      some (.sequence properties items, rest)
    | _, .flowMappingStart :: rest =>
      let (entries, rest) ← flowEntries? handles fuel rest
      some (.mapping properties entries, rest)
    | .block, .blockSequenceStart :: rest | .blockMapping, .blockSequenceStart :: rest =>
      let (items, rest) ← blockItems? handles fuel rest
      some (.sequence properties items, rest)
    | .block, .blockMappingStart :: rest | .blockMapping, .blockMappingStart :: rest =>
      let (entries, rest) ← blockEntries? handles fuel rest
      some (.mapping properties entries, rest)
    | _, tokens => if properties = {} then none else some (.scalar properties "" true, tokens)

/-- The items of an indented sequence, and its end. -/
def blockItems? (handles : Handles) : (fuel : Nat) → List Token →
    Option (List Node × List Token)
  | fuel + 1, .blockEntry :: rest => do
    let (item, rest) ← nodeUnless? [.blockEntry, .blockEnd] (node? handles fuel .block) rest
    let (items, rest) ← blockItems? handles fuel rest
    some (item :: items, rest)
  | _ + 1, .blockEnd :: rest => some ([], rest)
  | _, _ => none

/-- The items of a sequence at the column of the mapping around it. -/
def unindentedItems? (handles : Handles) : (fuel : Nat) → List Token →
    Option (List Node × List Token)
  | 0, _ => none
  | fuel + 1, .blockEntry :: rest => do
    let (item, rest) ←
      nodeUnless? [.blockEntry, .key, .value, .blockEnd] (node? handles fuel .block) rest
    let (items, rest) ← unindentedItems? handles fuel rest
    some (item :: items, rest)
  | _ + 1, rest => some ([], rest)

/-- The entries of an indented mapping, and its end. -/
def blockEntries? (handles : Handles) : (fuel : Nat) → List Token →
    Option (List (Node × Node) × List Token)
  | fuel + 1, .key :: rest => do
    let part? := nodeUnless? [.key, .value, .blockEnd] (node? handles fuel .blockMapping)
    let (key, rest) ← part? rest
    let (value, rest) ← match rest with
      | .value :: rest => part? rest
      | rest => some (.absent, rest)
    let (entries, rest) ← blockEntries? handles fuel rest
    some ((key, value) :: entries, rest)
  | _ + 1, .blockEnd :: rest => some ([], rest)
  | _, _ => none

/-- The items of a sequence within brackets, and its end. An item may be a pair of a key and
a value. -/
def flowItems? (handles : Handles) : (fuel : Nat) → List Token →
    Option (List Node × List Token)
  | 0, _ => none
  | _ + 1, .flowSequenceEnd :: rest => some ([], rest)
  | fuel + 1, tokens => do
    let (item, rest) ← match tokens with
      | .key :: rest => pair? handles fuel rest
      | tokens => node? handles fuel .flow tokens
    match rest with
    | .flowEntry :: rest =>
      let (items, rest) ← flowItems? handles fuel rest
      some (item :: items, rest)
    | .flowSequenceEnd :: rest => some ([item], rest)
    | _ => none

/-- A pair after the mark of its key. Where nothing is written for the key, the mark that
follows is read in its place. -/
def pair? (handles : Handles) : (fuel : Nat) → List Token → Option (Node × List Token)
  | 0, _ => none
  | fuel + 1, tokens => do
    let (key, rest) ← match tokens with
      | .value :: rest | .flowEntry :: rest | .flowSequenceEnd :: rest => some (.absent, rest)
      | tokens => node? handles fuel .flow tokens
    let (value, rest) ← match rest with
      | .value :: rest =>
        nodeUnless? [.flowEntry, .flowSequenceEnd] (node? handles fuel .flow) rest
      | rest => some (.absent, rest)
    some (.mapping {} [(key, value)], rest)

/-- The entries of a mapping within brackets, and its end. -/
def flowEntries? (handles : Handles) : (fuel : Nat) → List Token →
    Option (List (Node × Node) × List Token)
  | 0, _ => none
  | _ + 1, .flowMappingEnd :: rest => some ([], rest)
  | fuel + 1, tokens => do
    let (entry, rest) ← match tokens with
      | .key :: rest => do
        let (key, rest) ←
          nodeUnless? [.value, .flowEntry, .flowMappingEnd] (node? handles fuel .flow) rest
        let (value, rest) ← match rest with
          | .value :: rest =>
            nodeUnless? [.flowEntry, .flowMappingEnd] (node? handles fuel .flow) rest
          | rest => some (.absent, rest)
        some ((key, value), rest)
      | tokens => do
        let (key, rest) ← node? handles fuel .flow tokens
        some ((key, .absent), rest)
    match rest with
    | .flowEntry :: rest =>
      let (entries, rest) ← flowEntries? handles fuel rest
      some (entry :: entries, rest)
    | .flowMappingEnd :: rest => some ([entry], rest)
    | _ => none

end

/-! ### Documents -/

/-- The handles that stand for something without a directive. -/
def defaultHandles : Handles := [("!", "!"), ("!!", "tag:yaml.org,2002:")]

/-- The handles that the directives in front set. A version and a handle are set at most
once, and the version is 1.1 or 1.2. -/
def directives? (versioned : Bool) (handles : Handles) :
    List Token → Option (Handles × List Token)
  | .version major minor :: rest =>
    if versioned || major != 1 || (minor != 1 && minor != 2) then none
    else directives? true handles rest
  | .handle name expansion :: rest =>
    if handles.contains name then none
    else directives? versioned (handles.insert name expansion) rest
  | rest => some (handles, rest)

/-- The handles with those that no directive needs to set. -/
def withDefaults (handles : Handles) : Handles := handles ++ defaultHandles

/-- The token belongs to the text around the content of a document. -/
def isOutside : Token → Bool
  | .version _ _ | .handle _ _ | .documentStart | .documentEnd => true
  | _ => false

/-- The document in front; its content may be absent after a marker of its start. -/
def documentContent? (tokens : List Token) : Option (Node × List Token) := do
  let (handles, rest) ← directives? false [] tokens
  let content? (content : List Token) :=
    node? (withDefaults handles) (2 * content.length + 2) .block content
  match rest with
  | .documentStart :: rest =>
    if rest.head?.all isOutside then some (.absent, rest) else content? rest
  | rest => if rest.length < tokens.length then none else content? rest

/-- The one document of a text, which may be followed by markers of its end. -/
def document? : List Token → Option (Option Node)
  | [] => some none
  | tokens => do
    let (node, rest) ← documentContent? tokens
    if rest.all (· == .documentEnd) then some (some node) else none

end CrdSynthesis.Yaml
