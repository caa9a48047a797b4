import CrdSynthesis.Text

/-!
# Timestamps

A moment of the Gregorian calendar in UTC with whole seconds, read from a relaxed
form of RFC 3339: the parts may have fewer digits and blanks between them, a blank
may stand for the `T`, and the fraction of a second is dropped. The offset moves
the moment by less than a day, so at most one date to either side.

## Main definitions

* `Timestamp`: a moment
* `Timestamp.parse`: the moment of a text
* `Timestamp.text`: the written moment
-/

namespace CrdSynthesis

/-- A moment in UTC; second 60 is a leap second. -/
structure Timestamp where
  year : Int
  month : Nat
  day : Nat
  hour : Nat
  minute : Nat
  second : Nat
  deriving DecidableEq

namespace Timestamp

open Text (digitValue decimalValue)

/-- Why a text is no timestamp. -/
inductive Defect where
  | outOfRange
  | impossible
  | invalid
  | tooShort
  | trailing
  deriving DecidableEq

/-- The text that tells why a text is no timestamp. -/
def Defect.message : Defect → String
  | outOfRange => "input is out of range"
  | impossible => "no possible date and time matching input"
  | invalid => "input contains invalid characters"
  | tooShort => "premature end of input"
  | trailing => "trailing input"

/-! ## The calendar -/

/-- The year has a leap day. -/
def isLeapYear (year : Int) : Bool :=
  year % 4 == 0 && (year % 100 != 0 || year % 400 == 0)

/-- The number of days of a month, numbered from one. -/
def daysInMonth (year : Int) (month : Nat) : Nat :=
  match month with
  | 2 => if isLeapYear year then 29 else 28
  | 4 | 6 | 9 | 11 => 30
  | _ => 31

/-- The same time one day later. -/
def nextDay (t : Timestamp) : Timestamp :=
  if t.day < daysInMonth t.year t.month then { t with day := t.day + 1 }
  else if t.month < 12 then { t with month := t.month + 1, day := 1 }
  else { t with year := t.year + 1, month := 1, day := 1 }

/-- The same time one day earlier. -/
def previousDay (t : Timestamp) : Timestamp :=
  if 1 < t.day then { t with day := t.day - 1 }
  else if 1 < t.month then
    { t with month := t.month - 1, day := daysInMonth t.year (t.month - 1) }
  else { t with year := t.year - 1, month := 12, day := 31 }

/-- The number of minutes of a day. -/
def minutesPerDay : Nat := 24 * 60

/-- The moment in UTC of a local time `offset` minutes ahead of UTC, the offset being less
than a day. -/
def toUtc (t : Timestamp) (offset : Int) : Timestamp :=
  let minutes : Int := (t.hour * 60 + t.minute : Nat) - offset
  let ofDay : Nat := (minutes % minutesPerDay).toNat
  let moved := { t with hour := ofDay / 60, minute := ofDay % 60 }
  if minutes < 0 then moved.previousDay
  else if minutesPerDay ≤ minutes then moved.nextDay
  else moved

/-- The least year. -/
def minYear : Int := -262143

/-- The greatest year. -/
def maxYear : Int := 262142

/-! ## Reading -/

/-- At most `width` digits in front, and at least one. -/
def digits (width : Nat) (cs : List Char) : Except Defect (Nat × List Char) :=
  let ds := (cs.take width).takeWhile Char.isDigit
  if cs.isEmpty then .error .tooShort
  else if ds.isEmpty then .error .invalid
  else .ok (decimalValue ds, cs.drop ds.length)

/-- A number of at most two digits in front, after blanks, between `low` and `high`. -/
def part (low high : Nat) (cs : List Char) : Except Defect (Nat × List Char) := do
  let (n, rest) ← digits 2 (Text.trimStart cs)
  if low ≤ n ∧ n ≤ high then .ok (n, rest) else .error .outOfRange

/-- The greatest number that fits in 63 bits. -/
def greatestWord : Nat := 0x7FFFFFFFFFFFFFFF

/-- A year in front, after blanks: four digits at most, or any number of them after a sign. -/
def yearPart (cs : List Char) : Except Defect (Int × List Char) := do
  let signed (cs : List Char) : Except Defect (Int × List Char) := do
    let (n, rest) ← digits cs.length cs
    if greatestWord < n then .error .outOfRange else .ok ((n : Int), rest)
  let (year, rest) ←
    match Text.trimStart cs with
    | '-' :: cs => do
      let (n, rest) ← signed cs
      .ok (-n, rest)
    | '+' :: cs => signed cs
    | cs => do
      let (n, rest) ← digits 4 cs
      .ok ((n : Int), rest)
  if Int32.minValue.toInt ≤ year ∧ year ≤ Int32.maxValue.toInt then .ok (year, rest)
  else .error .outOfRange

/-- The character `c` in front, after blanks. -/
def mark (c : Char) (cs : List Char) : Except Defect (List Char) :=
  match Text.trimStart cs with
  | [] => .error .tooShort
  | d :: rest => if d = c then .ok rest else .error .invalid

/-- The mark between the date and the time: a `T` or a space. -/
def separator : List Char → Except Defect (List Char)
  | [] => .error .tooShort
  | c :: cs => if c = 'T' ∨ c = 't' ∨ c = ' ' then .ok cs else .error .invalid

/-- The rest after a fraction of a second, if one stands in front. -/
def dropFraction : List Char → Except Defect (List Char)
  | '.' :: cs => do
    let _ ← digits 9 cs
    .ok (cs.dropWhile Char.isDigit)
  | cs => .ok cs

/-- Two characters in front, which should be digits. -/
def twoCharacters : List Char → Except Defect (Char × Char × List Char)
  | a :: b :: cs => .ok (a, b, cs)
  | [a] => if a.toNat < 0x80 then .error .tooShort else .error .invalid
  | [] => .error .tooShort

/-- The minutes of an offset, after its hours; colons and blanks may stand before them. -/
def offsetMinutes (cs : List Char) : Except Defect (Nat × List Char) := do
  let (a, b, rest) ← twoCharacters (cs.dropWhile fun c => c == ':' || Text.isBlank c)
  if ¬ (a.isDigit ∧ b.isDigit) then .error .invalid
  else if 6 ≤ digitValue a then .error .outOfRange
  else .ok (decimalValue [a, b], rest)

/-- The hours and minutes of an offset, after its sign. -/
def unsignedOffset (cs : List Char) : Except Defect (Nat × List Char) := do
  let (a, b, rest) ← twoCharacters cs
  if ¬ (a.isDigit ∧ b.isDigit) then .error .invalid
  else
    let (minutes, rest) ← offsetMinutes rest
    .ok (60 * decimalValue [a, b] + minutes, rest)

/-- An offset in minutes in front: `Z`, `UTC`, or hours and minutes with a sign. -/
def offset (cs : List Char) : Except Defect (Int × List Char) :=
  if (cs.take 3).map Char.toLower = ['u', 't', 'c'] then .ok (0, cs.drop 3)
  else
    match cs with
    | [] => .error .tooShort
    | c :: cs =>
      if c = 'Z' ∨ c = 'z' then .ok (0, cs)
      else if c = '+' then do
        let (n, rest) ← unsignedOffset cs
        .ok ((n : Int), rest)
      else if c = '-' ∨ c = '\u2212' then do
        let (n, rest) ← unsignedOffset cs
        .ok (-(n : Int), rest)
      else .error .invalid

/-- The moment of a local date and time with an offset, if there is such a day. -/
def ofLocal (t : Timestamp) (offset : Int) : Except Defect Timestamp :=
  let utc := t.toUtc offset
  if t.year < minYear ∨ maxYear < t.year ∨ daysInMonth t.year t.month < t.day then
    .error .outOfRange
  else if minutesPerDay ≤ offset.natAbs then .error .outOfRange
  else if utc.year < minYear ∨ maxYear < utc.year then .error .impossible
  else .ok utc

/-- The moment of a text. -/
def parse (text : String) : Except Defect Timestamp := do
  let (year, cs) ← yearPart text.toList
  let cs ← mark '-' cs
  let (month, cs) ← part 1 12 cs
  let cs ← mark '-' cs
  let (day, cs) ← part 1 31 cs
  let cs ← separator cs
  let (hour, cs) ← part 0 23 cs
  let cs ← mark ':' cs
  let (minute, cs) ← part 0 59 cs
  let cs ← mark ':' cs
  let (second, cs) ← part 0 60 cs
  let cs ← dropFraction cs
  let (shift, cs) ← offset (Text.trimStart cs)
  if (Text.trimStart cs).isEmpty then ofLocal ⟨year, month, day, hour, minute, second⟩ shift
  else .error .trailing

/-! ## Writing -/

/-- A number with zeros in front up to `width` digits. -/
def padded (width n : Nat) : List Char :=
  let ds := Nat.toDigits 10 n
  List.replicate (width - ds.length) '0' ++ ds

/-- A year has four digits, and a sign where four digits do not hold it. -/
def yearText (year : Int) : List Char :=
  if 0 ≤ year ∧ year ≤ 9999 then padded 4 year.natAbs
  else (if year < 0 then '-' else '+') :: padded 4 year.natAbs

/-- The written moment, always in UTC and without a fraction. -/
def text (t : Timestamp) : String :=
  String.ofList (yearText t.year ++ ['-'] ++ padded 2 t.month ++ ['-'] ++ padded 2 t.day ++ ['T'] ++
    padded 2 t.hour ++ [':'] ++ padded 2 t.minute ++ [':'] ++ padded 2 t.second ++ ['Z'])

end Timestamp

end CrdSynthesis
