import CrdSynthesis.Yaml.Node
import CrdSynthesis.Yaml.Scalar

/-!
# Documents

A YAML text of one document has a JSON value. A stream holds several documents between
separator lines; documents without content, whose lines are all blank or comments, do not
count.

## Main definitions

* `Yaml.scalarValue?`: the value of a scalar with its tag
* `Yaml.valueOf?`: the value of a node
* `Yaml.read?`: the value of a text
* `Yaml.isSeparator`: a line between documents
* `Yaml.sections`: the lines between separators
* `Yaml.splitDocuments`: the documents of a stream
-/

namespace CrdSynthesis.Yaml

/-! ## Values

Sequences become arrays, mappings objects, and a reference has the value of the node it names.
Keys are the texts of scalars as they are written; of two entries with one key the later counts.
-/

/-! ### Scalars -/

/-- The tag is one of the application, not of the language. -/
def isLocal (tag : String) : Bool := tag.toList.head? == some '!'

/-- The tag names a type of the application, of which none is known. Octets that are no text
name nothing. -/
def isForeign (tag : String) : Bool := isLocal tag && (tagText? tag).isSome

/-- The value of a scalar without a tag; only a plain one may be other than a string. -/
def untaggedValue? (text : String) (plain : Bool) : Option Json :=
  if plain then plainValue? text else some (.string text)

/-- The value of a scalar. A tag of the language asks for a value of its type, and a local tag
that names nothing is as none; a scalar with another tag is a string. -/
def scalarValue? (tag : Option String) (text : String) (plain : Bool) : Option Json :=
  match tag with
  | none => untaggedValue? text plain
  | some tag =>
    if tag = "tag:yaml.org,2002:bool" then (truth? text).map .bool
    else if tag = "tag:yaml.org,2002:int" then (integer? text.toList).bind integerValue?
    else if tag = "tag:yaml.org,2002:float" then float? text
    else if tag = "tag:yaml.org,2002:null" then if isNothing text then some .null else none
    else if isForeign tag then none
    else if isLocal tag then untaggedValue? text plain
    else some (.string text)

/-! ### References -/

/-- The node that is marked with a number; of several the last counts. -/
def lookup? (marked : List (Nat × Node)) (number : Nat) : Option Node :=
  (marked.reverse.find? (·.1 == number)).map (·.2)

/-- A computation that may follow so many references. -/
abbrev Following := StateT Nat Option

/-- The node that a node stands for, which is no reference. -/
def follow (marked : List (Nat × Node)) : Node → Following Node
  | .reference number => fun budget =>
    match budget, lookup? marked number with
    | budget + 1, some node => some (node, budget)
    | _, _ => none
  | node => pure node

/-- The text of a key. -/
def keyText (marked : List (Nat × Node)) (key : Node) : Following String := do
  match ← follow marked key with
  | .scalar _ text _ => pure text
  | _ => failure

/-! ### Nodes -/

/-- A collection with a foreign tag has no value. -/
def checkTag (properties : Properties) : Following Unit :=
  if properties.tag.any isForeign then failure else pure ()

/-- The table of a mapping's entries, each value read by `read`. -/
def tableOf (marked : List (Nat × Node)) (read : Node → Following Json) :
    Table Json → List (Node × Node) → Following (Table Json)
  | table, [] => pure table
  | table, (key, value) :: entries => do
    let name ← keyText marked key
    let value ← read value
    tableOf marked read (table.insert name value) entries

/-- The value of a scalar. -/
def leafValue : Node → Following Json
  | .scalar properties text plain => (scalarValue? properties.tag text plain : Option Json)
  | _ => failure

/-- The value of a node within at most `depth` sequences and mappings. -/
def nodeValue (marked : List (Nat × Node)) : (depth : Nat) → Node → Following Json
  | 0, node => do leafValue (← follow marked node)
  | depth + 1, node => do
    match ← follow marked node with
    | .sequence properties items =>
      checkTag properties
      return .array (← items.mapM (nodeValue marked depth))
    | .mapping properties entries =>
      checkTag properties
      return .object (← tableOf marked (nodeValue marked depth) [] entries)
    | leaf => leafValue leaf

/-- How many sequences and mappings may stand one in another. -/
def depthLimit : Nat := 128

/-- The value of a node. The number of references that are followed is limited by the size of
the node, so that a short text has no overlong value. -/
def valueOf? (node : Node) : Option Json :=
  ((nodeValue node.marked depthLimit node).run (100 * node.size)).map (·.1)

/-- The value of a text; an empty text is `null`. -/
def read? (text : String) : Option Json := do
  let tokens ← tokens? (← glyphs? text)
  match ← document? tokens with
  | none => some .null
  | some node => valueOf? node

/-! ## Streams -/

/-- The line separates documents. What follows the mark on the line is not kept. -/
def isSeparator (line : List Char) : Bool :=
  let mark := Text.trimEnd line
  mark == ['-', '-', '-'] || ['-', '-', '-', ' '].isPrefixOf mark

/-- The line is blank or a comment. -/
def isIdle (line : List Char) : Bool :=
  let content := Text.trim line
  content.isEmpty || content.head? == some '#'

/-- The lines between separators, of which there is one group more than separators. -/
def sections : List (List Char) → List (List (List Char))
  | [] => [[]]
  | line :: rest =>
    if isSeparator line then [] :: sections rest
    else
      match sections rest with
      | [] => [[line]]
      | first :: others => (line :: first) :: others

/-- The document of some lines, unless all of them are idle. -/
def sectionDocument? (ls : List (List Char)) : Option String :=
  if ls.all isIdle then none else some (String.ofList (Text.unlines ls))

/-- The documents of a stream that have content, in their order. -/
def splitDocuments (stream : String) : List String :=
  (sections (Text.lines stream.toList)).filterMap sectionDocument?

end CrdSynthesis.Yaml
