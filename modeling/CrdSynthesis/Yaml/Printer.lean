import CrdSynthesis.Yaml.Glyph
import CrdSynthesis.Yaml.Scalar

/-!
# Writing YAML

A JSON value as a YAML document in block style. Mappings within mappings are indented,
sequences within mappings are not, and a collection within a sequence starts on the line of
its dash. A block is written as lines without regard to the blocks around it, which then
indent it.

## Main definitions

* `Yaml.Line`: a line with its end
* `Yaml.Style`, `Yaml.styleOf`: how a string is written
* `Yaml.scalarLines`, `Yaml.blockLines`: the lines of a scalar and of a value
* `Yaml.print`: the document of a value
-/

namespace CrdSynthesis.Yaml

/-! ## Lines -/

/-- A line with the line break that ends it. -/
structure Line where
  body : List Char
  ending : Char := '\n'
  deriving DecidableEq

/-- The characters of a line, its end included. -/
def Line.text (line : Line) : List Char := line.body ++ [line.ending]

/-- The line with a character in front. -/
def Line.prepend (c : Char) (line : Line) : Line := { line with body := c :: line.body }

/-- The line one level deeper; an empty line has no indentation. -/
def Line.indent (line : Line) : Line :=
  if line.body.isEmpty then line else { line with body := ' ' :: ' ' :: line.body }

/-- The lines of a text; the last line ends with a line feed if it has no end of its own. -/
def splitLines : List Char → List Line
  | [] => []
  | c :: cs =>
    if isBreak c then { body := [], ending := c } :: splitLines cs
    else
      match splitLines cs with
      | [] => [{ body := [c] }]
      | line :: rest => line.prepend c :: rest

/-- A block whose first line follows `lead` and whose other lines are indented. -/
def hang (lead : List Char) : List Line → List Line
  | [] => [{ body := lead }]
  | line :: rest => { line with body := lead ++ line.body } :: rest.map Line.indent

/-- The text of written lines. -/
def textOfLines (ls : List Line) : List Char := ls.flatMap Line.text

/-! ## Styles of scalars

How a string is written so that it reads as itself. A string of several lines is a literal block,
one that would read as something else is quoted, and all others are plain. A style that cannot
hold a string gives way to one that can.
-/

/-- The ways to write a string. -/
inductive Style where
  | plain
  | singleQuoted
  | doubleQuoted
  | literal
  deriving DecidableEq

/-- The character is written only as an escape. -/
def isSpecial (c : Char) : Bool :=
  let n := c.toNat
  !(n == 0x0A || (0x20 ≤ n && n ≤ 0x7E) || (0xA0 ≤ n && n ≤ 0xD7FF) ||
    (0xE000 ≤ n && n ≤ 0xFFFD && c != byteOrderMark) || 0x10000 ≤ n)

/-- A character with the property `p` stands before one with the property `q`. -/
def hasPair (p q : Char → Bool) : List Char → Bool
  | a :: b :: cs => (p a && q b) || hasPair p q (b :: cs)
  | _ => false

/-- The character is a space. -/
def isSpace (c : Char) : Bool := c == ' '

/-- A blank or a line break. -/
def isGap (c : Char) : Bool := isBlank c || isBreak c

/-- No character with the property `p` is the last one. -/
def endsOutside (p : Char → Bool) (cs : List Char) : Bool := !cs.getLast?.any p

/-! ### What the styles can hold -/

/-- Spaces at the ends of lines would be lost. -/
def keepsSpaces (cs : List Char) : Bool := !hasPair isSpace isBreak cs

/-- A literal block keeps the text: no line ends in a space, and nothing needs an escape. -/
def literalHolds (cs : List Char) : Bool :=
  endsOutside isSpace cs && keepsSpaces cs && !cs.any isSpecial

/-- Single quotes keep the text: no space stands beside a break, and nothing needs an escape. -/
def singleHolds (cs : List Char) : Bool :=
  keepsSpaces cs && !hasPair isBreak isSpace cs && !cs.any isSpecial

/-- The indicators that no plain scalar starts with. -/
def leadIndicators : List Char :=
  ['#', ',', '[', ']', '{', '}', '&', '*', '!', '|', '>', '\'', '"', '%', '@', '\x60']

/-- The indicators that start a plain scalar unless a gap follows them. -/
def gapIndicators : List Char := ['?', ':', '-']

/-- The start of the text is an indicator or looks like a marker of documents. -/
def startsAsIndicator : List Char → Bool
  | [] => false
  | [c] => leadIndicators.contains c || gapIndicators.contains c
  | c :: d :: cs =>
    leadIndicators.contains c || (gapIndicators.contains c && isGap d) ||
      ((c == '-' || c == '.') && d == c && cs.head? == some c)

/-- The text holds a key mark or a comment. -/
def holdsIndicator (cs : List Char) : Bool :=
  hasPair (· == ':') isGap cs || cs.getLast? == some ':' || hasPair isGap (· == '#') cs

/-- The text can stand without quotes: it is one line that neither starts nor ends in a space and
holds nothing that reads as a mark. -/
def plainHolds (cs : List Char) : Bool :=
  !cs.head?.any isSpace && endsOutside isSpace cs && !cs.any isBreak && !cs.any isSpecial &&
    !startsAsIndicator cs && !holdsIndicator cs

/-! ### The choice of a style -/

/-- The text would read as something else than itself, or as an old way to write numbers. -/
def needsQuotes (text : String) : Bool := !isString text || hasLeadingZero text.toList

/-- The style in which a text is written. -/
def styleOf (text : String) : Style :=
  let cs := text.toList
  if cs.contains '\n' then if literalHolds cs then .literal else .doubleQuoted
  else if !needsQuotes text && plainHolds cs then .plain
  else if singleHolds cs then .singleQuoted
  else .doubleQuoted

/-! ## Writing scalars -/

/-- A text between single quotes, each of its own quotes twice. -/
def singleQuote (cs : List Char) : List Char :=
  '\'' :: cs.flatMap (fun c => if c == '\'' then ['\'', '\''] else [c]) ++ ['\'']

/-- The number in upper case, with zeros in front up to `width` digits. -/
def hexadecimal (width n : Nat) : List Char :=
  let digits := (Nat.toDigits 16 n).map Char.toUpper
  List.replicate (width - digits.length) '0' ++ digits

/-- The code of a character behind the letter that tells its length. -/
def escapedCode (c : Char) : List Char :=
  let n := c.toNat
  if n ≤ 0xFF then 'x' :: hexadecimal 2 n
  else if n ≤ 0xFFFF then 'u' :: hexadecimal 4 n
  else 'U' :: hexadecimal 8 n

/-- The written form of a character between double quotes. -/
def escaped (c : Char) : List Char :=
  match c with
  | '\x00' => ['\\', '0']
  | '\x07' => ['\\', 'a']
  | '\x08' => ['\\', 'b']
  | '\t' => ['\\', 't']
  | '\n' => ['\\', 'n']
  | '\x0b' => ['\\', 'v']
  | '\x0c' => ['\\', 'f']
  | '\r' => ['\\', 'r']
  | '\x1b' => ['\\', 'e']
  | '"' => ['\\', '"']
  | '\\' => ['\\', '\\']
  | '\u0085' => ['\\', 'N']
  | '\u2028' => ['\\', 'L']
  | '\u2029' => ['\\', 'P']
  | c => if isSpecial c then '\\' :: escapedCode c else [c]

/-- A text between double quotes. -/
def doubleQuote (cs : List Char) : List Char := '"' :: cs.flatMap escaped ++ ['"']

/-- The mark that says what follows the last line: no line break, one, or more. -/
def chompingMark (cs : List Char) : List Char :=
  match cs.reverse with
  | [] => ['-']
  | [c] => if isBreak c then ['+'] else ['-']
  | c :: d :: _ => if !isBreak c then ['-'] else if isBreak d then ['+'] else []

/-- The header of a literal block, which gives the indentation where it does not show. -/
def blockHeader (cs : List Char) : List Char :=
  let hint := if cs.head?.any fun c => isSpace c || isBreak c then ['2'] else []
  '|' :: hint ++ chompingMark cs

/-- The text of a scalar on one line. -/
def flowText (style : Style) (cs : List Char) : List Char :=
  match style with
  | .plain => cs
  | .singleQuoted => singleQuote cs
  | .doubleQuoted | .literal => doubleQuote cs

/-- The lines of a scalar, of which all but the first are to be indented. -/
def scalarLines (text : String) : List Line :=
  let cs := text.toList
  match styleOf text with
  | .literal => { body := blockHeader cs } :: splitLines cs
  | style => splitLines (flowText style cs)

/-! ## Writing values -/

/-- The greatest number of octets of a key that stands on the line of its value. -/
def keyLimit : Nat := 128

/-- The key stands on the line of its value. -/
def isSimpleKey (key : String) : Bool :=
  !key.toList.any isBreak && key.utf8ByteSize ≤ keyLimit

/-- A key with its colon. -/
def keyMark (key : String) : List Char := flowText (styleOf key) key.toList ++ [':']

/-- A value on the line of its key or its dash. -/
def inlineText : Json → List Char
  | .null => "null".toList
  | .bool value => (if value then "true" else "false").toList
  | .integer value => (toString value).toList
  | .double value => (value.text Double.yamlFormat).toList
  | .string value => value.toList
  | .array _ => ['[', ']']
  | .object _ => ['{', '}']

/-- An entry with its key, given the lines of its value. A value that is a sequence is not
indented, since its dashes set it apart. -/
def entryLines (key : String) (value : Json) (lines : List Line) : List Line :=
  if !isSimpleKey key then hang ['?', ' '] (scalarLines key) ++ hang [':', ' '] lines
  else
    match value with
    | .array (_ :: _) => { body := keyMark key } :: lines
    | .object (_ :: _) => { body := keyMark key } :: lines.map Line.indent
    | _ => hang (keyMark key ++ [' ']) lines

mutual

/-- The lines of a value without indentation. Of a scalar's lines all but the first are to
be indented. -/
def blockLines : Json → List Line
  | .string value => scalarLines value
  | .array (item :: items) => itemLines (item :: items)
  | .object (member :: members) => memberLines (member :: members)
  | value => [{ body := inlineText value }]

/-- The lines of items, each behind its dash. -/
def itemLines : List Json → List Line
  | [] => []
  | item :: items => hang ['-', ' '] (blockLines item) ++ itemLines items

/-- The lines of members, each behind its key. -/
def memberLines : List (String × Json) → List Line
  | [] => []
  | (key, value) :: members => entryLines key value (blockLines value) ++ memberLines members

end

/-- The lines of a document that holds a value. -/
def documentLines (value : Json) : List Line :=
  match value with
  | .string text => hang [] (scalarLines text)
  | value => blockLines value

/-- The document of a value. -/
def print (value : Json) : String := String.ofList (textOfLines (documentLines value))

end CrdSynthesis.Yaml
