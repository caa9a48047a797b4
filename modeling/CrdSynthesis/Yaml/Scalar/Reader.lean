import CrdSynthesis.Text
import CrdSynthesis.Yaml.Glyph

/-!
# Reading scalars

The characters of a scalar in front of a text, by the style in which it is written.

## Main definitions

* `Yaml.Gap`: the blanks since the last character, and what they read as
* `Yaml.plainScalar?`: the plain scalar in front
* `Yaml.singleQuoted?`, `Yaml.doubleQuoted?`: the scalar after an opening quote
* `Yaml.blockScalar?`: the block scalar after its indicator
-/

namespace CrdSynthesis.Yaml

/-! ## Blanks within a scalar

Blanks between two characters of a scalar are kept, unless they surround line breaks. One line
break reads as a space, and of several the first is dropped; a Unicode separator is kept.
-/

/-- The blanks since the last character of a scalar, the last one first. -/
inductive Gap where
  | none
  | blanks (cs : List Char)
  | breaks (first : Option Char) (others : List Char)

namespace Gap

/-- The gap with one more blank, which counts only before any line break. -/
def addBlank (c : Char) : Gap → Gap
  | none => blanks [c]
  | blanks cs => blanks (c :: cs)
  | breaks first others => breaks first others

/-- The gap with one more line break, which drops the blanks before it. -/
def addBreak (c : Char) : Gap → Gap
  | none => breaks (some c) []
  | blanks _ => breaks (some c) []
  | breaks first others => breaks first (c :: others)

/-- What a gap reads as. -/
def text : Gap → List Char
  | none => []
  | blanks cs => cs.reverse
  | breaks Option.none others => others.reverse
  | breaks (some '\n') [] => [' ']
  | breaks (some '\n') others => others.reverse
  | breaks (some c) others => c :: others.reverse

/-- Nothing stands between two characters. -/
def isNone : Gap → Bool
  | none => true
  | _ => false

/-- The gap goes on to another line. -/
def hasBreak : Gap → Bool
  | breaks _ _ => true
  | _ => false

end Gap

/-! ## Plain scalars

A plain scalar ends before a comment, before a colon with a blank after it, at a marker of
documents, and at a line that is not indented enough. Within brackets it also ends before the
indicators of flow collections.
-/

/-- A scalar in front. -/
structure PlainScalar where
  text : List Char
  rest : List Glyph
  /-- The blanks after the scalar include a line break. -/
  endsLine : Bool

/-- The indicators that end a plain scalar within brackets. -/
def flowIndicators : List Char := [',', '[', ']', '{', '}']

/-- What a plain scalar goes on with after a gap; its further lines start at `margin` or later. -/
def plainFrom? (flow : Bool) (margin : Nat) (gap : Gap) : List Glyph → Option PlainScalar
  | [] => some ⟨[], [], gap.hasBreak⟩
  | g :: gs =>
    if isBlank g.char then
      if gap.hasBreak && g.char == '\t' && g.column < margin then none
      else plainFrom? flow margin (gap.addBlank g.char) gs
    else if isBreak g.char then plainFrom? flow margin (gap.addBreak g.char) gs
    else if (!gap.isNone && !flow && g.column < margin) || (documentMark? (g :: gs)).isSome ||
        (!gap.isNone && g.char == '#') then
      some ⟨[], g :: gs, gap.hasBreak⟩
    else if flow && g.char == ':' && ahead ('?' :: flowIndicators) gs then none
    else if (g.char == ':' && blankAhead gs) || (flow && flowIndicators.contains g.char) then
      some ⟨[], g :: gs, gap.hasBreak⟩
    else
      (plainFrom? flow margin .none gs).map fun scalar =>
        { scalar with text := gap.text ++ g.char :: scalar.text }

/-- The plain scalar in front. -/
def plainScalar? (flow : Bool) (margin : Nat) (gs : List Glyph) : Option PlainScalar :=
  plainFrom? flow margin .none gs

/-! ## Quoted scalars

Between single quotes a quote is written twice, and nothing else is escaped. Between double
quotes a backslash starts an escape, and one before a line break joins the lines.
-/

open CrdSynthesis.Text (digitValue?)

/-- What a scalar between single quotes goes on with after a gap. -/
def singleQuotedFrom? (gap : Gap) : List Glyph → Option (List Char × List Glyph)
  | [] => none
  | g :: gs =>
    if isBlank g.char then singleQuotedFrom? (gap.addBlank g.char) gs
    else if isBreak g.char then singleQuotedFrom? (gap.addBreak g.char) gs
    else if (documentMark? (g :: gs)).isSome then none
    else if g.char == '\'' then
      match gs with
      | [] => some (gap.text, [])
      | q :: rest =>
        if q.char == '\'' then
          (singleQuotedFrom? .none rest).map fun (text, rest) => (gap.text ++ '\'' :: text, rest)
        else some (gap.text, q :: rest)
    else (singleQuotedFrom? .none gs).map fun (text, rest) => (gap.text ++ g.char :: text, rest)

/-- The scalar after its opening single quote. -/
def singleQuoted? (gs : List Glyph) : Option (List Char × List Glyph) :=
  singleQuotedFrom? .none gs

/-- The character that an escape of one letter stands for. -/
def escapedLetter? : Char → Option Char
  | '0' => some '\x00'
  | 'a' => some '\x07'
  | 'b' => some '\x08'
  | 't' => some '\t'
  | '\t' => some '\t'
  | 'n' => some '\n'
  | 'v' => some '\x0b'
  | 'f' => some '\x0c'
  | 'r' => some '\r'
  | 'e' => some '\x1b'
  | ' ' => some ' '
  | '"' => some '"'
  | '/' => some '/'
  | '\\' => some '\\'
  | 'N' => some nextLine
  | '_' => some '\u00a0'
  | 'L' => some lineSeparator
  | 'P' => some paragraphSeparator
  | _ => none

/-- The number of hexadecimal digits after the letter of an escape. -/
def codeLength? : Char → Option Nat
  | 'x' => some 2
  | 'u' => some 4
  | 'U' => some 8
  | _ => none

/-- The character of a code, which is no surrogate. -/
def ofCode? (n : Nat) : Option Char :=
  if h : n.isValidChar then some (Char.ofNatAux n h) else none

/-- Where the reader of a scalar between double quotes stands. -/
inductive QuotedPlace where
  /-- After a character and a gap. -/
  | text (gap : Gap)
  /-- After a backslash. -/
  | escape
  /-- Within the digits of a code, with the number of digits to come. -/
  | code (left value : Nat)

/-- What a scalar between double quotes goes on with at a place. -/
def doubleQuotedFrom? : QuotedPlace → List Glyph → Option (List Char × List Glyph)
  | _, [] => none
  | .text gap, g :: gs =>
    if isBlank g.char then doubleQuotedFrom? (.text (gap.addBlank g.char)) gs
    else if isBreak g.char then doubleQuotedFrom? (.text (gap.addBreak g.char)) gs
    else if (documentMark? (g :: gs)).isSome then none
    else if g.char == '"' then some (gap.text, gs)
    else if g.char == '\\' then
      (doubleQuotedFrom? .escape gs).map fun (text, rest) => (gap.text ++ text, rest)
    else
      (doubleQuotedFrom? (.text .none) gs).map fun (text, rest) =>
        (gap.text ++ g.char :: text, rest)
  | .escape, g :: gs =>
    if isBreak g.char then doubleQuotedFrom? (.text (.breaks none [])) gs
    else
      match escapedLetter? g.char, codeLength? g.char with
      | some c, _ =>
        (doubleQuotedFrom? (.text .none) gs).map fun (text, rest) => (c :: text, rest)
      | none, some length => doubleQuotedFrom? (.code length 0) gs
      | none, none => none
  | .code left value, g :: gs =>
    match digitValue? g.char with
    | none => none
    | some digit =>
      let value := 16 * value + digit
      if 1 < left then doubleQuotedFrom? (.code (left - 1) value) gs
      else
        match ofCode? value with
        | none => none
        | some c =>
          (doubleQuotedFrom? (.text .none) gs).map fun (text, rest) => (c :: text, rest)

/-- The scalar after its opening double quote. -/
def doubleQuoted? (gs : List Glyph) : Option (List Char × List Glyph) :=
  doubleQuotedFrom? (.text .none) gs

/-! ## Block scalars

A block scalar is a header and the lines below it that are indented. Literal scalars keep their
line breaks; folded ones join lines that are neither empty nor indented further. What follows
the last line is kept as the header says.
-/

/-- What becomes of the line breaks after the last line. -/
inductive Chomping where
  | strip
  | clip
  | keep
  deriving DecidableEq

/-- The header of a block scalar; the indentation is that beyond the parent's. -/
structure BlockHeader where
  chomping : Chomping
  indentation : Option Nat

/-- The mark in front that says what becomes of the last line breaks. -/
def chomping? : List Glyph → Option (Chomping × List Glyph)
  | [] => none
  | g :: gs =>
    if g.char == '+' then some (.keep, gs)
    else if g.char == '-' then some (.strip, gs)
    else none

/-- A digit in front. -/
def indentationDigit? : List Glyph → Option (Nat × List Glyph)
  | [] => none
  | g :: gs => if g.char.isDigit then some (Text.digitValue g.char, gs) else none

/-- The header in front, its two parts in either order. The indentation is never zero. -/
def blockHeader? (gs : List Glyph) : Option (BlockHeader × List Glyph) :=
  let (first, gs) := match chomping? gs with
    | some (chomping, rest) => (some chomping, rest)
    | none => (none, gs)
  let (indentation, gs) := match indentationDigit? gs with
    | some (n, rest) => (some n, rest)
    | none => (none, gs)
  let (second, gs) := match first, indentation, chomping? gs with
    | none, some _, some (chomping, rest) => (some chomping, rest)
    | first, _, _ => (first, gs)
  if indentation == some 0 then none
  else some (⟨second.getD .clip, indentation⟩, gs)

/-- Indentation and empty lines in front, with the line breaks and the greatest column that
was reached. Without an indentation any number of spaces is skipped. -/
def emptyLines? (indentation : Option Nat) (reached : Nat) :
    List Glyph → Option (List Char × Nat × List Glyph)
  | [] => some ([], reached, [])
  | g :: gs =>
    let within := match indentation with
      | none => true
      | some n => g.column < n
    if within && g.char == ' ' then emptyLines? indentation reached gs
    else
      let reached := max reached g.column
      if within && g.char == '\t' then none
      else if isBreak g.char then
        (emptyLines? indentation reached gs).map fun (breaks, reached, rest) =>
          (g.char :: breaks, reached, rest)
      else some ([], reached, g :: gs)

/-- What has been read of a block scalar. -/
structure BlockText where
  text : List Char
  /-- The break after the last line. -/
  lastBreak : List Char
  /-- The breaks of the empty lines after it. -/
  emptyBreaks : List Char
  /-- The last line starts with a blank. -/
  lastIndented : Bool

/-- What stands between the lines so far and a next line. -/
def BlockText.joint (before : BlockText) (literal indented : Bool) : List Char :=
  if !literal && before.lastBreak == ['\n'] && !before.lastIndented && !indented then
    if before.emptyBreaks.isEmpty then [' '] else before.emptyBreaks
  else before.lastBreak ++ before.emptyBreaks

/-- The lines at a column; `fuel` bounds their number. -/
def blockLines? (literal : Bool) (column : Nat) :
    (fuel : Nat) → BlockText → List Glyph → Option (BlockText × List Glyph)
  | 0, before, gs => some (before, gs)
  | fuel + 1, before, gs =>
    match gs with
    | [] => some (before, [])
    | g :: _ =>
      if g.column ≠ column then some (before, gs)
      else
        let indented := isBlank g.char
        let (line, rest) := run (!isBreak ·) gs
        match emptyLines? (some column) 0 (rest.drop 1) with
        | none => none
        | some (breaks, _, rest') =>
          blockLines? literal column fuel
            { text := before.text ++ before.joint literal indented ++ line
              lastBreak := (rest.take 1).map (·.char)
              emptyBreaks := breaks
              lastIndented := indented } rest'

/-- The text with as much of the last line breaks as the header keeps. -/
def BlockText.chomped (block : BlockText) : Chomping → List Char
  | .strip => block.text
  | .clip => block.text ++ block.lastBreak
  | .keep => block.text ++ block.lastBreak ++ block.emptyBreaks

/-- The scalar after its indicator, in a block whose entries stand at `parent`. -/
def blockScalar? (literal : Bool) (parent : Option Nat) (gs : List Glyph) :
    Option (List Char × List Glyph) := do
  let (header, gs) ← blockHeader? gs
  let gs ← endLine? gs
  let given := header.indentation.map (parent.getD 0 + ·)
  let least := match parent with
    | none => 1
    | some n => n + 1
  let (breaks, reached, gs) ← emptyLines? given 0 gs
  let column := given.getD (max reached least)
  let (block, gs) ← blockLines? literal column gs.length ⟨[], [], breaks, false⟩ gs
  some (block.chomped header.chomping, gs)

end CrdSynthesis.Yaml
