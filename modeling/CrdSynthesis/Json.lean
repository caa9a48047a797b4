import CrdSynthesis.Double
import CrdSynthesis.Table
import CrdSynthesis.Text

/-!
# JSON

A JSON value with exact integers beside doubles. The members of an object form a table, so
values read from a text carry them in the order of their names. Values are written on one line
or with an entry per line, and read by a strict reader.

## Main definitions

* `Json`: a value
* `Json.member?`: the member of an object under a name
* `Json.compact`, `Json.pretty`: the written value
* `Json.parse?`, `Json.parseWithin?`: the value of a text
* `Json.Fault`: why a value is not written or not read, with its message
-/

namespace CrdSynthesis

/-- A value. -/
inductive Json where
  | null
  | bool (value : Bool)
  | integer (value : Int)
  | double (value : Double)
  | string (value : String)
  | array (items : List Json)
  | object (members : List (String × Json))
  deriving Inhabited

namespace Json

/-- The member under a name; a value other than an object has none. -/
def member? (value : Json) (name : String) : Option Json :=
  match value with
  | object members => Table.find? name members
  | _ => none

/-- The text of a string; no other value has one. -/
def string? : Json → Option String
  | string value => some value
  | _ => none

/-! ## Writing -/

/-- The hexadecimal digit of a number below sixteen. -/
def hexDigit (n : Nat) : Char := (Nat.toDigits 16 n).headD '0'

/-- The written form of a character of a string; only what a string cannot hold is escaped. -/
def escape (c : Char) : List Char :=
  match c with
  | '"' => ['\\', '"']
  | '\\' => ['\\', '\\']
  | '\x08' => ['\\', 'b']
  | '\x0c' => ['\\', 'f']
  | '\n' => ['\\', 'n']
  | '\r' => ['\\', 'r']
  | '\t' => ['\\', 't']
  | c =>
    if c.toNat < 0x20 then
      ['\\', 'u', '0', '0', hexDigit (c.toNat / 16), hexDigit (c.toNat % 16)]
    else [c]

/-- A string between quotes. -/
def quote (s : String) : String :=
  "\"" ++ String.ofList (s.toList.flatMap escape) ++ "\""

mutual

/-- A value on one line, without blanks. -/
def compact : Json → String
  | null => "null"
  | bool value => if value then "true" else "false"
  | integer value => toString value
  | double value => value.text Double.jsonFormat
  | string value => quote value
  | array items => "[" ++ ",".intercalate (compactItems items) ++ "]"
  | object members => "\x7b" ++ ",".intercalate (compactMembers members) ++ "\x7d"

/-- The items of an array, each on one line. -/
def compactItems : List Json → List String
  | [] => []
  | item :: items => compact item :: compactItems items

/-- The members of an object, each on one line. -/
def compactMembers : List (String × Json) → List String
  | [] => []
  | (name, value) :: members => (quote name ++ ":" ++ compact value) :: compactMembers members

end

/-- The start of a line at a level. -/
def margin (level : Nat) : String := String.ofList (List.replicate (2 * level) ' ')

/-- Entries between brackets, each on a line of its own at `level + 1`. -/
def bracketed (level : Nat) (opening closing : String) : List String → String
  | [] => opening ++ closing
  | entries =>
    opening ++ "\n" ++ ",\n".intercalate (entries.map (margin (level + 1) ++ ·)) ++ "\n" ++
      margin level ++ closing

mutual

/-- The text of a value that starts on a line at `level`. -/
def prettyAt (level : Nat) : Json → String
  | null => "null"
  | bool value => if value then "true" else "false"
  | integer value => toString value
  | double value => value.text Double.jsonFormat
  | string value => quote value
  | array items => bracketed level "[" "]" (prettyItems (level + 1) items)
  | object members => bracketed level "\x7b" "\x7d" (prettyMembers (level + 1) members)

/-- The items of an array, each as it follows its margin. -/
def prettyItems (level : Nat) : List Json → List String
  | [] => []
  | item :: items => prettyAt level item :: prettyItems level items

/-- The members of an object, each as it follows its margin. -/
def prettyMembers (level : Nat) : List (String × Json) → List String
  | [] => []
  | (name, value) :: members =>
    (quote name ++ ": " ++ prettyAt level value) :: prettyMembers level members

end

/-- A value with an entry per line, indented by two spaces a level. -/
def pretty (value : Json) : String := prettyAt 0 value

/-! ## Reading

A strict reader: no comments, no trailing commas, no raw control characters, no lone
surrogates, no leading zeros. Integers of 64 bits stay integers, other numbers become doubles
and must be finite. Of two members with one name the later counts.
-/

open CrdSynthesis.Text (digitValue decimalValue numeral?)

namespace Text

/-- A blank between tokens; there are four. -/
def isBlank (c : Char) : Bool := c == ' ' || c == '\n' || c == '\t' || c == '\r'

/-- The rest from the next token on. -/
def skipBlanks (cs : List Char) : List Char := cs.dropWhile isBlank

/-! ### Numbers -/

/-- One more than the greatest unsigned integer of 64 bits. -/
def wordBound : Nat := Nat.pow 2 64

/-- The digits that fit in a word after `value`, and the number of those left out. -/
def wholeCoefficient (value : Nat) : List Char → Nat × Nat
  | [] => (value, 0)
  | d :: ds =>
    let next := 10 * value + digitValue d
    if next < wordBound then wholeCoefficient next ds else (value, ds.length + 1)

/-- The digits that fit in a word after `value`, and their number; the others are dropped. -/
def fractionCoefficient (value : Nat) : List Char → Nat × Nat
  | [] => (value, 0)
  | d :: ds =>
    let next := 10 * value + digitValue d
    if next < wordBound then
      let (coefficient, count) := fractionCoefficient next ds
      (coefficient, count + 1)
    else (value, 0)

/-- A number with a fraction or an exponent, or an integer beyond 64 bits. -/
def double? (negative : Bool) (whole fraction : List Char) (exponent : Int) : Option Json :=
  let (coefficient, dropped) := wholeCoefficient 0 whole
  let (coefficient, taken) := fractionCoefficient coefficient fraction
  (Double.ofScaledDecimal? negative coefficient (exponent + dropped - taken)).map Json.double

/-- An integer, which becomes a double beyond 64 bits; a negative zero is a double too. -/
def integer? (negative : Bool) (whole : List Char) : Option Json :=
  let n := decimalValue whole
  if negative then
    if n ≠ 0 ∧ n ≤ wordBound / 2 then some (.integer (-n)) else double? true whole [] 0
  else if n < wordBound then some (.integer n)
  else double? false whole [] 0

/-- The fraction in front, empty where there is none; a point needs digits. -/
def fraction? : List Char → Option (List Char × List Char)
  | '.' :: cs =>
    let (ds, rest) := cs.span Char.isDigit
    if ds.isEmpty then none else some (ds, rest)
  | cs => some ([], cs)

/-- The digits of an exponent after its mark and sign. -/
def exponentDigits? (negative : Bool) (cs : List Char) : Option (Option Int × List Char) :=
  let (ds, rest) := cs.span Char.isDigit
  let n : Int := decimalValue ds
  if ds.isEmpty then none else some (some (if negative then -n else n), rest)

/-- The exponent in front, if there is one; a mark needs digits. -/
def exponent? : List Char → Option (Option Int × List Char)
  | c :: cs =>
    if c == 'e' || c == 'E' then
      match cs with
      | '+' :: cs => exponentDigits? false cs
      | '-' :: cs => exponentDigits? true cs
      | cs => exponentDigits? false cs
    else some (none, c :: cs)
  | [] => some (none, [])

/-- A number after its sign. -/
def unsigned? (negative : Bool) (cs : List Char) : Option (Json × List Char) := do
  let (whole, cs) := cs.span Char.isDigit
  if whole.isEmpty || (whole.head? == some '0' && 1 < whole.length) then none
  else
    let (fraction, cs) ← fraction? cs
    let (exponent, cs) ← exponent? cs
    let value ←
      if fraction.isEmpty && exponent.isNone then integer? negative whole
      else double? negative whole fraction (exponent.getD 0)
    some (value, cs)

/-- A number in front. -/
def number? : List Char → Option (Json × List Char)
  | '-' :: cs => unsigned? true cs
  | cs => unsigned? false cs

/-! ### Strings -/

/-- A part of a string between the quotes: a character, or the UTF-16 unit of an escape. -/
inductive Part where
  | char (c : Char)
  | unit (n : Nat)

/-- The unit of four hexadecimal digits. -/
def unit? (a b c d : Char) : Option Nat :=
  numeral? 16 [a, b, c, d]

/-- The character of an escape of one letter. -/
def escaped? : Char → Option Char
  | '"' => some '"'
  | '\\' => some '\\'
  | '/' => some '/'
  | 'b' => some '\x08'
  | 'f' => some '\x0c'
  | 'n' => some '\n'
  | 'r' => some '\r'
  | 't' => some '\t'
  | _ => none

/-- The parts up to the closing quote. -/
def parts? : List Char → Option (List Part × List Char)
  | [] => none
  | '"' :: cs => some ([], cs)
  | '\\' :: 'u' :: a :: b :: c :: d :: cs => do
    let n ← unit? a b c d
    let (ps, rest) ← parts? cs
    some (.unit n :: ps, rest)
  | '\\' :: e :: cs => do
    let c ← escaped? e
    let (ps, rest) ← parts? cs
    some (.char c :: ps, rest)
  | c :: cs => do
    if c.toNat < 0x20 || c == '\\' then none
    else
      let (ps, rest) ← parts? cs
      some (.char c :: ps, rest)

/-- The first half of a pair of units. -/
def isHighSurrogate (n : Nat) : Bool := 0xD800 ≤ n && n < 0xDC00

/-- The second half of a pair of units. -/
def isLowSurrogate (n : Nat) : Bool := 0xDC00 ≤ n && n < 0xE000

/-- The characters of parts; a surrogate must be half of a pair. -/
def joinParts? : List Part → Option (List Char)
  | [] => some []
  | .char c :: ps => (joinParts? ps).map (c :: ·)
  | .unit high :: .unit low :: ps =>
    if isHighSurrogate high && isLowSurrogate low then
      (joinParts? ps).map
        (Char.ofNat (0x10000 + 1024 * (high - 0xD800) + (low - 0xDC00)) :: ·)
    else if isHighSurrogate high || isLowSurrogate high then none
    else (joinParts? (.unit low :: ps)).map (Char.ofNat high :: ·)
  | .unit n :: ps =>
    if isHighSurrogate n || isLowSurrogate n then none
    else (joinParts? ps).map (Char.ofNat n :: ·)

/-- A string in front, after its opening quote. -/
def string? (cs : List Char) : Option (String × List Char) := do
  let (ps, rest) ← parts? cs
  let body ← joinParts? ps
  some (String.ofList body, rest)

/-! ### Values -/

mutual

/-- A value in front. `depth` is the number of arrays and objects that may still be
entered, and `fuel` bounds the number of steps. -/
def value : (fuel depth : Nat) → List Char → Option (Json × List Char)
  | 0, _, _ => none
  | fuel + 1, depth, cs =>
    match skipBlanks cs with
    | 'n' :: 'u' :: 'l' :: 'l' :: cs => some (.null, cs)
    | 't' :: 'r' :: 'u' :: 'e' :: cs => some (.bool true, cs)
    | 'f' :: 'a' :: 'l' :: 's' :: 'e' :: cs => some (.bool false, cs)
    | '"' :: cs => (string? cs).map fun (s, rest) => (.string s, rest)
    | '[' :: cs =>
      match depth with
      | 0 => none
      | depth + 1 =>
        match skipBlanks cs with
        | ']' :: cs => some (.array [], cs)
        | cs => (elements fuel depth cs).map fun (items, rest) => (.array items, rest)
    | '{' :: cs =>
      match depth with
      | 0 => none
      | depth + 1 =>
        match skipBlanks cs with
        | '}' :: cs => some (.object [], cs)
        | cs => (members fuel depth [] cs).map fun (table, rest) => (.object table, rest)
    | cs => number? cs

/-- One element or more, and the closing bracket. -/
def elements : (fuel depth : Nat) → List Char → Option (List Json × List Char)
  | 0, _, _ => none
  | fuel + 1, depth, cs => do
    let (item, cs) ← value fuel depth cs
    match skipBlanks cs with
    | ']' :: cs => some ([item], cs)
    | ',' :: cs =>
      let (items, rest) ← elements fuel depth cs
      some (item :: items, rest)
    | _ => none

/-- One member or more, and the closing brace; the members join those of `table`. -/
def members : (fuel depth : Nat) → Table Json → List Char → Option (Table Json × List Char)
  | 0, _, _, _ => none
  | fuel + 1, depth, table, cs =>
    match skipBlanks cs with
    | '"' :: cs => do
      let (name, cs) ← string? cs
      match skipBlanks cs with
      | ':' :: cs =>
        let (item, cs) ← value fuel depth cs
        let table := table.insert name item
        match skipBlanks cs with
        | '}' :: cs => some (table, cs)
        | ',' :: cs => members fuel depth table cs
        | _ => none
      | _ => none
    | _ => none

end

/-- The greatest number of arrays and objects around a value. -/
def depthLimit : Nat := 127

end Text

/-- The value of a text, which may hold nothing else but blanks, with at most `depth` arrays
and objects one in another. -/
def parseWithin? (depth : Nat) (text : String) : Option Json := do
  let cs := text.toList
  let (result, rest) ← Text.value (2 * cs.length + 2) depth cs
  if (Text.skipBlanks rest).isEmpty then some result else none

/-- The value of a text. -/
def parse? (text : String) : Option Json := parseWithin? Text.depthLimit text

/-! ## Faults

Why a value is not written as JSON or not read from it. The message ends in the place of the
fault if it has one, and a message that ends so is taken apart again.
-/

open CrdSynthesis.Text (numeral?)

/-- A place in a text, whose lines count from one. -/
structure Place where
  line : Nat
  column : Nat

/-- A cause in words, perhaps with its place. -/
structure Fault where
  cause : String
  place : Option Place := none

/-- What stands in a message before the line of the place. -/
def Place.lineWord : String := " at line "

/-- What stands in a message before the column of the place. -/
def Place.columnWord : String := " column "

/-- How a place stands at the end of a message. -/
def Place.text (place : Place) : String :=
  String.join [lineWord, toString place.line, columnWord, toString place.column]

/-- The cause, and then the place if there is one. -/
def Fault.message (fault : Fault) : String :=
  String.join [fault.cause, (fault.place.map Place.text).getD ""]

/-! ### Taking messages apart -/

/-- The number of 64 bits that ends a text after a word, and the text before the word. Both
texts are given from their last character on. -/
def lastNumber? (word : String) (cs : List Char) : Option (Nat × List Char) := do
  let number ← numeral? 10 (cs.takeWhile Char.isDigit).reverse
  let before ← word.toList.reverse.isPrefixOf? (cs.dropWhile Char.isDigit)
  if number < Text.wordBound then some (number, before) else none

/-- The place that ends a text, and the text before it; both texts are given from their last
character on. -/
def Place.atEnd? (cs : List Char) : Option (Place × List Char) := do
  let (column, cs) ← lastNumber? columnWord cs
  let (line, cs) ← lastNumber? lineWord cs
  return (⟨line, column⟩, cs)

/-- The fault that a message tells of. In a line zero stands no place. -/
def Fault.ofMessage (message : String) : Fault :=
  match Place.atEnd? message.toList.reverse with
  | some (place, cause) =>
    ⟨String.ofList cause.reverse, if place.line = 0 then none else some place⟩
  | none => ⟨message, none⟩

end Json

end CrdSynthesis
