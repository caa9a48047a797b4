/-!
# Placed characters

A YAML text as a list of characters, each with its column, the octets before it on its line
and the lines from it on. A place says nothing of the lines above, so the text from the start
of a line on reads alike wherever it stands. Every line break is one character; the breaks
other than the two Unicode separators become a line feed.

## Main definitions

* `Yaml.Glyph`: a character with its place
* `Yaml.glyphs?`: the characters of a text, if all of them are allowed
-/

namespace CrdSynthesis.Yaml

/-- A character with its place. -/
structure Glyph where
  char : Char
  /-- How many line breaks the text has from here on. -/
  linesLeft : Nat
  column : Nat
  /-- How many octets of UTF-8 stand before it on its line. -/
  offset : Nat

/-- The next-line control character. -/
def nextLine : Char := '\u0085'

/-- The Unicode separator of lines. -/
def lineSeparator : Char := '\u2028'

/-- The Unicode separator of paragraphs. -/
def paragraphSeparator : Char := '\u2029'

/-- The mark of a text's encoding, which may start any line. -/
def byteOrderMark : Char := '\uFEFF'

/-- The characters that may stand in a text. -/
def isAllowed (c : Char) : Bool :=
  let n := c.toNat
  n == 0x09 || n == 0x0A || n == 0x0D || (0x20 ≤ n && n ≤ 0x7E) || n == 0x85 ||
    (0xA0 ≤ n && n ≤ 0xD7FF) || (0xE000 ≤ n && n ≤ 0xFFFD) || 0x10000 ≤ n

/-- A line break. -/
def isBreak (c : Char) : Bool :=
  c == '\n' || c == '\r' || c == nextLine || c == lineSeparator || c == paragraphSeparator

/-- A blank within a line. -/
def isBlank (c : Char) : Bool := c == ' ' || c == '\t'

/-- How many line breaks a text has. -/
def linesLeft : List Glyph → Nat
  | [] => 0
  | g :: _ => g.linesLeft

/-- A line break in front of a text. -/
def breakLine (c : Char) (column offset : Nat) (gs : List Glyph) : List Glyph :=
  ⟨if c == lineSeparator || c == paragraphSeparator then c else '\n', linesLeft gs + 1, column,
    offset⟩ :: gs

/-- The characters from a place on. -/
def place (column offset : Nat) : List Char → List Glyph
  | [] => []
  | '\r' :: '\n' :: cs => breakLine '\n' column offset (place 0 0 cs)
  | c :: cs =>
    if isBreak c then breakLine c column offset (place 0 0 cs)
    else
      let gs := place (column + 1) (offset + c.utf8Size) cs
      ⟨c, linesLeft gs, column, offset⟩ :: gs

/-- The characters of a text, if all of them are allowed. -/
def glyphs? (text : String) : Option (List Glyph) :=
  let cs := text.toList
  if cs.all isAllowed then some (place 0 0 cs) else none

/-! ## Looking ahead -/

/-- A blank, a line break or the end of the text stands in front. -/
def blankAhead : List Glyph → Bool
  | [] => true
  | g :: _ => isBlank g.char || isBreak g.char

/-- A line break or the end of the text stands in front. -/
def breakAhead : List Glyph → Bool
  | [] => true
  | g :: _ => isBreak g.char

/-- One of the characters `cs` stands in front. -/
def ahead (cs : List Char) : List Glyph → Bool
  | [] => false
  | g :: _ => cs.contains g.char

/-- The character of a marker of documents, `---` or `...`, that stands in front. -/
def documentMark? : List Glyph → Option Char
  | a :: b :: c :: rest =>
    if a.column == 0 && (a.char == '-' || a.char == '.') && b.char == a.char &&
        c.char == a.char && blankAhead rest then
      some a.char
    else none
  | _ => none

/-- The longest run of characters with a property in front, and what follows it. -/
def run (p : Char → Bool) (gs : List Glyph) : List Char × List Glyph :=
  ((gs.takeWhile (p ·.char)).map (·.char), gs.dropWhile (p ·.char))

/-- The rest after the blanks in front. -/
def skipBlanks (gs : List Glyph) : List Glyph := gs.dropWhile (isBlank ·.char)

/-- The rest of a line: blanks and perhaps a comment up to the line break, which is
dropped too. -/
def endLine? (gs : List Glyph) : Option (List Glyph) :=
  let gs := skipBlanks gs
  let gs := if ahead ['#'] gs then gs.dropWhile (!isBreak ·.char) else gs
  if breakAhead gs then some (gs.drop 1) else none

end CrdSynthesis.Yaml
