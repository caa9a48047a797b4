import CrdSynthesis.Table
import CrdSynthesis.Yaml.Scalar.Reader

/-!
# Tokens

The tokens of a YAML text. Outside of brackets the column of a line's first token closes the
blocks that stand further right, and an entry that stands further right than its block opens a
new one, so the nesting that a text shows by indentation is spelled out by tokens of its own.

A mapping's key on one line is known as a key only by the colon after it. So the place of the
last token that may start a key is remembered, with one such place for each level of brackets,
and the token that marks the key is put there once the colon is found.

## Main definitions

* `Yaml.Token`: the marks of a text
* `Yaml.tag?`, `Yaml.directive?`: the tag and the directive after their first characters
* `Yaml.Lexer`: what has been read, and where a key may have started
* `Yaml.Lexer.step?`: reads a token
* `Yaml.tokens?`: the tokens of a text
-/

namespace CrdSynthesis.Yaml

/-- A mark of the text, or the start or the end of a block that shows only by indentation. -/
inductive Token where
  | version (major minor : Nat)
  | handle (name expansion : String)
  | documentStart
  | documentEnd
  | blockSequenceStart
  | blockMappingStart
  | blockEnd
  | flowSequenceStart
  | flowSequenceEnd
  | flowMappingStart
  | flowMappingEnd
  | blockEntry
  | flowEntry
  | key
  | value
  /-- A mark of the next node, by its number. -/
  | anchor (number : Nat)
  /-- The node that is marked with a number. -/
  | reference (number : Nat)
  | tag (handle suffix : String)
  | scalar (text : String) (plain : Bool)
  deriving DecidableEq

/-! ## Tags

A tag is written in full between angle brackets, or as a handle and a suffix. The octets of
escapes stay apart, each as the character of its code.
-/

open CrdSynthesis.Text (digitValue?)

/-- The characters of names of anchors, handles and directives. -/
def isWordChar (c : Char) : Bool := c.isAlphanum || c == '_' || c == '-'

/-- The characters of a tag. Those that end a scalar within brackets are allowed only where
the tag is `delimited`. -/
def isUriChar (delimited : Bool) (c : Char) : Bool :=
  isWordChar c || ";/?:@&=+$.!~*'()".toList.contains c || (delimited && ",[]".toList.contains c)

/-- The octet of two hexadecimal digits. -/
def octet? (high low : Char) : Option Nat := do
  return 16 * (← digitValue? high) + (← digitValue? low)

/-- The number of octets that must follow a first octet. -/
def followers? (octet : Nat) : Option Nat :=
  if octet < 0x80 then some 0
  else if octet / 0x20 == 0x06 then some 1
  else if octet / 0x10 == 0x0E then some 2
  else if octet / 0x08 == 0x1E then some 3
  else none

/-- The number of octets still to follow after an octet of which `due` were. -/
def octetsDue? (octet : Nat) : (due : Nat) → Option Nat
  | 0 => followers? octet
  | due + 1 => if octet / 0x40 == 0x02 then some due else none

/-- The characters of a tag in front, of which `due` octets must be escaped. -/
def uriFrom? (delimited : Bool) (due : Nat) : List Glyph → Option (List Char × List Glyph)
  | [] => if due == 0 then some ([], []) else none
  | ⟨'%', _, _, _⟩ :: a :: b :: gs => do
    let octet ← octet? a.char b.char
    let due ← octetsDue? octet due
    let (cs, rest) ← uriFrom? delimited due gs
    some (Char.ofNat octet :: cs, rest)
  | g :: gs =>
    if due != 0 || g.char == '%' then none
    else if isUriChar delimited g.char then
      (uriFrom? delimited 0 gs).map fun (cs, rest) => (g.char :: cs, rest)
    else some ([], g :: gs)

/-- The characters of a tag in front, up to a null character. -/
def uri? (delimited : Bool) (gs : List Glyph) : Option (List Char × List Glyph) :=
  (uriFrom? delimited 0 gs).map fun (cs, rest) => (cs.takeWhile (· != '\x00'), rest)

/-- The characters of a tag in front, of which there must be one. -/
def someUri? (delimited : Bool) (gs : List Glyph) : Option (List Char × List Glyph) :=
  if ahead ['%'] gs || (gs.head?.any fun g => isUriChar delimited g.char) then uri? delimited gs
  else none

/-- A handle after its first exclamation mark: a word, and whether a second mark closes it. -/
def handleWord (gs : List Glyph) : List Char × Bool × List Glyph :=
  let (word, rest) := run isWordChar gs
  if ahead ['!'] rest then (word, true, rest.drop 1) else (word, false, rest)

/-- A handle that stands alone: the exclamation mark, or a word between two. -/
def handle? : List Glyph → Option (String × List Glyph)
  | [] => none
  | g :: gs =>
    if g.char != '!' then none
    else
      match handleWord gs with
      | (word, true, rest) => some (String.ofList ('!' :: word ++ ['!']), rest)
      | ([], false, rest) => some ("!", rest)
      | (_ :: _, false, _) => none

/-- The handle and the suffix of a tag after its exclamation mark. The mark alone is a tag
without a handle. -/
def tagParts? : List Glyph → Option ((String × String) × List Glyph)
  | ⟨'<', _, _, _⟩ :: gs => do
    let (uri, rest) ← someUri? true gs
    if ahead ['>'] rest then some (("", String.ofList uri), rest.drop 1) else none
  | gs =>
    match handleWord gs with
    | (word, true, rest) => do
      let (suffix, rest) ← someUri? false rest
      some ((String.ofList ('!' :: word ++ ['!']), String.ofList suffix), rest)
    | (word, false, rest) => do
      let (suffix, rest) ← uri? false rest
      match word ++ suffix with
      | [] => some (("", "!"), rest)
      | suffix => some (("!", String.ofList suffix), rest)

/-- The tag after its exclamation mark. A blank must follow, or a comma within brackets. -/
def tag? (flow : Bool) (gs : List Glyph) : Option ((String × String) × List Glyph) := do
  let (tag, rest) ← tagParts? gs
  if blankAhead rest || (flow && ahead [','] rest) then some (tag, rest) else none

/-- The text whose octets of UTF-8 are the characters of a tag. Escapes may name octets that
are no text. -/
def tagText? (tag : String) : Option String :=
  String.fromUTF8? (tag.toList.map (·.toNat.toUInt8)).toByteArray

/-! ## Directives

A directive stands on a line of its own before a document. It names the version of the text, or
what a handle of tags stands for.
-/

/-- A number of one to nine digits. -/
def shortNumber? (gs : List Glyph) : Option (Nat × List Glyph) :=
  let (digits, rest) := run Char.isDigit gs
  if 9 < digits.length then none else (Text.numeral? 10 digits).map fun n => (n, rest)

/-- The version in a directive: two numbers with a point between them. -/
def versionNumber? (gs : List Glyph) : Option (Token × List Glyph) := do
  let (major, rest) ← shortNumber? (skipBlanks gs)
  if ahead ['.'] rest then
    let (minor, rest) ← shortNumber? (rest.drop 1)
    some (.version major minor, rest)
  else none

/-- The handle in a directive, and after blanks what it stands for. -/
def handleExpansion? (gs : List Glyph) : Option (Token × List Glyph) := do
  let (name, rest) ← handle? (skipBlanks gs)
  if rest.head?.any (isBlank ·.char) then
    let (expansion, rest) ← someUri? true (skipBlanks rest)
    if blankAhead rest then some (.handle name (String.ofList expansion), rest) else none
  else none

/-- The directive after its percent sign, with the whole line. -/
def directive? (gs : List Glyph) : Option (Token × List Glyph) := do
  let (name, rest) := run isWordChar gs
  if !blankAhead rest then none
  else
    let (token, rest) ←
      if name == "YAML".toList then versionNumber? rest
      else if name == "TAG".toList then handleExpansion? rest
      else none
    let rest ← endLine? rest
    some (token, rest)

/-! ## Reading tokens -/

/-- A token that may start a key: its place in the text and among the tokens. Where only a
key can stand the key is `required`. -/
structure PendingKey where
  required : Bool
  linesLeft : Nat
  column : Nat
  offset : Nat
  number : Nat

/-- What has been read, and where a key may have started. -/
structure Lexer where
  /-- The tokens so far, the last one first. -/
  tokens : List Token := []
  /-- The columns of the open blocks, the innermost one first. -/
  indents : List Nat := []
  key : Option PendingKey := none
  /-- The pending keys outside of each open bracket. -/
  outerKeys : List (Option PendingKey) := []
  /-- The next token may start a key. -/
  keyAllowed : Bool := true
  /-- The number of each marked node by its name. -/
  anchors : Table Nat := []

namespace Lexer

/-- Some bracket is open. -/
def inFlow (lexer : Lexer) : Bool := !lexer.outerKeys.isEmpty

/-- The number of the next token. -/
def count (lexer : Lexer) : Nat := lexer.tokens.length

/-- The lexer after one more token. -/
def emit (token : Token) (lexer : Lexer) : Lexer :=
  { lexer with tokens := token :: lexer.tokens }

/-- Puts a token before the one with a number. -/
def insertAt (number : Nat) (token : Token) (lexer : Lexer) : Lexer :=
  let later := lexer.count - number
  { lexer with tokens := lexer.tokens.take later ++ token :: lexer.tokens.drop later }

/-- The lexer with a word on whether the next token may start a key. -/
def allowKey (allowed : Bool) (lexer : Lexer) : Lexer := { lexer with keyAllowed := allowed }

/-! ### Blocks -/

/-- Closes the innermost blocks with a property of their column. -/
def closeBlocks (p : Nat → Bool) (lexer : Lexer) : Lexer :=
  if lexer.inFlow then lexer
  else
    let closed := lexer.indents.takeWhile p
    { lexer with
      tokens := closed.map (fun _ => .blockEnd) ++ lexer.tokens
      indents := lexer.indents.drop closed.length }

/-- Closes every open block. -/
def closeAllBlocks (lexer : Lexer) : Lexer := lexer.closeBlocks fun _ => true

/-- Opens a block before the token with a number, unless one is open at the column. -/
def openBlock (start : Token) (column number : Nat) (lexer : Lexer) : Lexer :=
  if !lexer.inFlow && lexer.indents.head?.all (· < column) then
    { lexer.insertAt number start with indents := column :: lexer.indents }
  else lexer

/-- Opens a block for an entry at a column. Outside of brackets an entry stands only where a
key may start. -/
def openEntry? (start : Token) (column : Nat) (lexer : Lexer) : Option Lexer :=
  if lexer.inFlow then some lexer
  else if lexer.keyAllowed then some (lexer.openBlock start column lexer.count)
  else none

/-! ### Keys -/

/-- No key starts at the pending place. -/
def dropKey? (lexer : Lexer) : Option Lexer :=
  if lexer.key.any (·.required) then none else some { lexer with key := none }

/-- How many octets may stand between the start of a key and its colon. -/
def longestKey : Nat := 1024

/-- A pending key as seen from the later place of `g`: a key stands on one line and is
not long. -/
def expire? (g : Glyph) (key : Option PendingKey) : Option (Option PendingKey) :=
  match key with
  | none => some none
  | some pending =>
    if g.linesLeft < pending.linesLeft || pending.offset + longestKey < g.offset then
      if pending.required then none else some none
    else some (some pending)

/-- Looks at all pending keys, also those outside of the open brackets, from a later place. -/
def expireKeys? (g : Glyph) (lexer : Lexer) : Option Lexer := do
  let key ← expire? g lexer.key
  let outerKeys ← lexer.outerKeys.mapM (expire? g)
  return { lexer with key, outerKeys }

/-- The token at `g` may start a key. -/
def saveKey? (g : Glyph) (lexer : Lexer) : Option Lexer :=
  if lexer.keyAllowed then do
    let lexer ← lexer.dropKey?
    let required := !lexer.inFlow && lexer.indents.head? == some g.column
    some { lexer with key := some ⟨required, g.linesLeft, g.column, g.offset, lexer.count⟩ }
  else some lexer

/-! ### Tokens -/

/-- A bracket that opens. Within it keys are pending anew. -/
def flowStart? (start : Token) (g : Glyph) (lexer : Lexer) : Option Lexer := do
  let lexer ← lexer.saveKey? g
  let lexer := { lexer with key := none, outerKeys := lexer.key :: lexer.outerKeys }
  return (lexer.allowKey true).emit start

/-- A bracket that closes; the key outside of it is pending again. -/
def flowEnd? (token : Token) (lexer : Lexer) : Option Lexer := do
  let lexer ← lexer.dropKey?
  let lexer := match lexer.outerKeys with
    | [] => lexer
    | key :: outerKeys => { lexer with key, outerKeys }
  return (lexer.allowKey false).emit token

/-- A comma within brackets. -/
def flowEntry? (lexer : Lexer) : Option Lexer := do
  let lexer ← lexer.dropKey?
  return (lexer.allowKey true).emit .flowEntry

/-- The dash of an item. -/
def blockEntry? (g : Glyph) (lexer : Lexer) : Option Lexer := do
  let lexer ← lexer.openEntry? .blockSequenceStart g.column
  let lexer ← lexer.dropKey?
  return (lexer.allowKey true).emit .blockEntry

/-- A key after a question mark. -/
def explicitKey? (g : Glyph) (lexer : Lexer) : Option Lexer := do
  let lexer ← lexer.openEntry? .blockMappingStart g.column
  let lexer ← lexer.dropKey?
  return (lexer.allowKey !lexer.inFlow).emit .key

/-- A colon, which makes a key of the pending one. -/
def value? (g : Glyph) (lexer : Lexer) : Option Lexer :=
  match lexer.key with
  | some pending =>
    let lexer := lexer.insertAt pending.number .key
    let lexer := lexer.openBlock .blockMappingStart pending.column pending.number
    some (({ lexer with key := none }.allowKey false).emit .value)
  | none => do
    let lexer ← lexer.openEntry? .blockMappingStart g.column
    return (lexer.allowKey !lexer.inFlow).emit .value

/-- A marker of documents, which ends all blocks. -/
def documentMarker? (token : Token) (lexer : Lexer) : Option Lexer := do
  let lexer ← lexer.closeAllBlocks.dropKey?
  return (lexer.allowKey false).emit token

/-- The name of a node after its indicator. -/
def nodeName? (gs : List Glyph) : Option (String × List Glyph) :=
  let (word, rest) := run isWordChar gs
  if word.isEmpty then none
  else if blankAhead rest || ahead ['?', ':', ',', ']', '}', '%', '@', '\x60'] rest then
    some (String.ofList word, rest)
  else none

/-- A mark of the next node. Its number is the count of the names so far, so a name that is
given again shares its number with the next new name. -/
def anchor (name : String) (lexer : Lexer) : Lexer :=
  let number := lexer.anchors.length
  { lexer.emit (.anchor number) with anchors := lexer.anchors.insert name number }

/-- A reference by a name, which must have been given to a node before. -/
def reference? (name : String) (lexer : Lexer) : Option Lexer :=
  (Table.find? name lexer.anchors).map fun number => lexer.emit (.reference number)

/-- A token that may start a key and is no bracket. -/
def leaf? (g : Glyph) (lexer : Lexer) : Option Lexer :=
  (lexer.saveKey? g).map (·.allowKey false)

/-- A scalar between quotes, which has been read. -/
def scalar? (g : Glyph) (lexer : Lexer) (scalar : Option (List Char × List Glyph)) :
    Option (Lexer × List Glyph) := do
  let lexer ← lexer.leaf? g
  let (text, rest) ← scalar
  return (lexer.emit (.scalar (String.ofList text) false), rest)

/-- A block scalar. It starts no key, but a key may follow it. -/
def literal? (folded : Bool) (gs : List Glyph) (lexer : Lexer) :
    Option (Lexer × List Glyph) := do
  let lexer ← lexer.dropKey?
  let (text, rest) ← blockScalar? (!folded) lexer.indents.head? gs
  return ((lexer.allowKey true).emit (.scalar (String.ofList text) false), rest)

/-- The characters that start no plain scalar. -/
def indicators : List Char :=
  ['-', '?', ':', ',', '[', ']', '{', '}', '#', '&', '*', '!', '|', '>', '\'', '"', '%', '@',
    '\x60']

/-- A plain scalar may start here. Some indicators start one if no blank follows them. -/
def startsPlain (flow : Bool) (g : Glyph) (gs : List Glyph) : Bool :=
  if g.char == '-' then !blankAhead gs
  else if g.char == '?' || g.char == ':' then !flow && !blankAhead gs
  else !isBlank g.char && !indicators.contains g.char

/-- A plain scalar, whose further lines stand further right than the innermost block. -/
def plain? (g : Glyph) (gs : List Glyph) (lexer : Lexer) : Option (Lexer × List Glyph) := do
  let margin := (lexer.indents.head?.map (· + 1)).getD 0
  let lexer ← lexer.leaf? g
  let scalar ← plainScalar? lexer.inFlow margin (g :: gs)
  let lexer := lexer.allowKey scalar.endsLine
  return (lexer.emit (.scalar (String.ofList scalar.text) true), scalar.rest)

/-- Reads the token that starts with `g`. -/
def step? (g : Glyph) (gs : List Glyph) (lexer : Lexer) : Option (Lexer × List Glyph) :=
  let separated := lexer.inFlow || blankAhead gs
  if g.column == 0 && g.char == '%' then do
    let (token, rest) ← directive? gs
    return (← lexer.documentMarker? token, rest)
  else
    match documentMark? (g :: gs), g.char with
    | some mark, _ => do
      let token := if mark == '-' then Token.documentStart else Token.documentEnd
      return (← lexer.documentMarker? token, gs.drop 2)
    | none, '[' => do return (← lexer.flowStart? .flowSequenceStart g, gs)
    | none, '{' => do return (← lexer.flowStart? .flowMappingStart g, gs)
    | none, ']' => do return (← lexer.flowEnd? .flowSequenceEnd, gs)
    | none, '}' => do return (← lexer.flowEnd? .flowMappingEnd, gs)
    | none, ',' => do return (← lexer.flowEntry?, gs)
    | none, '*' => do
      let (name, rest) ← nodeName? gs
      return (← (← lexer.leaf? g).reference? name, rest)
    | none, '&' => do
      let (name, rest) ← nodeName? gs
      return ((← lexer.leaf? g).anchor name, rest)
    | none, '!' => do
      let ((handle, suffix), rest) ← tag? lexer.inFlow gs
      return ((← lexer.leaf? g).emit (.tag handle suffix), rest)
    | none, '\'' => lexer.scalar? g (singleQuoted? gs)
    | none, '"' => lexer.scalar? g (doubleQuoted? gs)
    | none, c =>
      if c == '-' && blankAhead gs then do return (← lexer.blockEntry? g, gs)
      else if c == '?' && separated then do return (← lexer.explicitKey? g, gs)
      else if c == ':' && separated then do return (← lexer.value? g, gs)
      else if (c == '|' || c == '>') && !lexer.inFlow then lexer.literal? (c == '>') gs
      else if startsPlain lexer.inFlow g gs then lexer.plain? g gs
      else none

/-- The rest of the text from its next token on, and whether a key may start there. A new line
outside of brackets may start with a key, and must not be indented by a tab. A byte order mark
at the start of a line is skipped and takes up a column. -/
def skipBetween (flow comment keyAllowed : Bool) : List Glyph → Bool × List Glyph
  | [] => (keyAllowed, [])
  | g :: gs =>
    if isBreak g.char then skipBetween flow false (keyAllowed || !flow) gs
    else if comment || g.char == '#' then skipBetween flow true keyAllowed gs
    else if g.char == ' ' || (g.char == '\t' && (flow || !keyAllowed)) ||
        (g.char == byteOrderMark && g.column == 0) then
      skipBetween flow false keyAllowed gs
    else (keyAllowed, g :: gs)

/-- All tokens from here on; every token takes a character of the text, of which there are
fewer than `fuel`. -/
def finish? : (fuel : Nat) → Lexer → List Glyph → Option (List Token)
  | 0, _, _ => none
  | fuel + 1, lexer, gs =>
    let (keyAllowed, gs) := skipBetween lexer.inFlow false lexer.keyAllowed gs
    let lexer := lexer.allowKey keyAllowed
    match gs with
    | [] => lexer.closeAllBlocks.dropKey?.map (·.tokens.reverse)
    | g :: gs => do
      let lexer ← lexer.expireKeys? g
      let (lexer, rest) ← (lexer.closeBlocks (g.column < ·)).step? g gs
      finish? fuel lexer rest

end Lexer

/-- The tokens of a text. -/
def tokens? (gs : List Glyph) : Option (List Token) :=
  Lexer.finish? (gs.length + 1) {} gs

end CrdSynthesis.Yaml
