import CrdSynthesis.Double
import CrdSynthesis.Json
import CrdSynthesis.Text

/-!
# The values of scalars

A plain scalar may stand for nothing, a truth value or a number; other scalars are
strings. A number with a leading zero is a string too. Integers of 64 bits are exact, and
infinities and undefined numbers become `null`.

## Main definitions

* `Yaml.nothing?`, `Yaml.truth?`, `Yaml.integer?`, `Yaml.float?`: what a text stands for
* `Yaml.plainValue?`: the value of a plain scalar
* `Yaml.isString`: a text that reads as a string where it is written plainly
-/

namespace CrdSynthesis.Yaml

open CrdSynthesis.Text (numeral?)

/-- The text is one of those that stand for nothing. -/
def isNothing (text : String) : Bool := ["~", "null", "Null", "NULL"].contains text

/-- The truth value that a text stands for. -/
def truth? (text : String) : Option Bool :=
  if ["true", "True", "TRUE"].contains text then some true
  else if ["false", "False", "FALSE"].contains text then some false
  else none

/-! ## Integers -/

/-- The text without a sign in front. -/
def unsigned : List Char → List Char
  | '+' :: cs => cs
  | '-' :: cs => cs
  | cs => cs

/-- Digits alone, with a needless zero in front. -/
def hasLeadingZero (cs : List Char) : Bool :=
  match unsigned cs with
  | '0' :: d :: ds => (d :: ds).all Char.isDigit
  | _ => false

/-- The number of a numeral without a sign. -/
def magnitude? : List Char → Option Nat
  | '0' :: 'x' :: cs => numeral? 16 cs
  | '0' :: 'o' :: cs => numeral? 8 cs
  | '0' :: 'b' :: cs => numeral? 2 cs
  | cs => if hasLeadingZero cs then none else numeral? 10 cs

/-- The number of a numeral that may have a sign. -/
def signed? : List Char → Option Int
  | '+' :: cs => (magnitude? cs).map Int.ofNat
  | '-' :: cs => (magnitude? cs).map fun n => -Int.ofNat n
  | cs => (magnitude? cs).map Int.ofNat

/-- Between the least signed and the greatest unsigned integer of a number of bits. -/
def fitsBits (bits : Nat) (i : Int) : Bool :=
  -Int.ofNat (Nat.pow 2 (bits - 1)) ≤ i && i < Int.ofNat (Nat.pow 2 bits)

/-- The integer that a text stands for; one that needs more than 128 bits is none. -/
def integer? (cs : List Char) : Option Int := (signed? cs).filter (fitsBits 128)

/-- An integer as a value, if it needs no more than 64 bits. -/
def integerValue? (i : Int) : Option Json :=
  if fitsBits 64 i then some (.integer i) else none

/-! ## Floating point numbers -/

/-- The letter before an exponent. -/
def isExponentMark (c : Char) : Bool := c == 'e' || c == 'E'

/-- The exponent after the digits of a number, zero where there is none. -/
def exponent? : List Char → Option Int
  | [] => some 0
  | mark :: cs =>
    if !isExponentMark mark then none
    else
      match cs with
      | '+' :: ds => (numeral? 10 ds).map Int.ofNat
      | '-' :: ds => (numeral? 10 ds).map fun n => -Int.ofNat n
      | ds => (numeral? 10 ds).map Int.ofNat

/-- The fraction in front, empty where there is no point. -/
def fraction : List Char → List Char × List Char
  | '.' :: cs => cs.span Char.isDigit
  | cs => ([], cs)

/-- A decimal number without a sign; one digit is needed, before or after the point. -/
def decimal? (negative : Bool) (cs : List Char) : Option Double := do
  let (whole, cs) := cs.span Char.isDigit
  let (fraction, cs) := fraction cs
  let coefficient ← numeral? 10 (whole ++ fraction)
  let exponent ← exponent? cs
  Double.ofDecimal? negative coefficient (exponent - fraction.length)

/-- The texts that stand for an infinity, after a sign if there is one. -/
def infinities : List String := [".inf", ".Inf", ".INF"]

/-- The texts that stand for an undefined number. -/
def undefinedNumbers : List String := [".nan", ".NaN", ".NAN"]

/-- The floating point number that a text stands for, `null` if it is not finite. -/
def float? (text : String) : Option Json :=
  match text.toList with
  | '+' :: cs =>
    if infinities.contains (String.ofList cs) then some .null
    else (decimal? false cs).map .double
  | '-' :: cs =>
    if infinities.contains (String.ofList cs) then some .null
    else (decimal? true cs).map .double
  | cs =>
    if infinities.contains text || undefinedNumbers.contains text then some .null
    else (decimal? false cs).map .double

/-! ## Plain scalars -/

/-- The value of a plain scalar, if there is one: none has an integer beyond 64 bits, unless
it needs more than 128 and is read as a floating point number. -/
def plainValue? (text : String) : Option Json :=
  if text = "" || isNothing text then some .null
  else
    match truth? text, integer? text.toList with
    | some value, _ => some (.bool value)
    | none, some i => integerValue? i
    | none, none =>
      if hasLeadingZero text.toList then some (.string text)
      else some ((float? text).getD (.string text))

/-- The text reads as itself where it is written plainly. -/
def isString (text : String) : Bool :=
  match plainValue? text with
  | some (.string _) => true
  | _ => false

end CrdSynthesis.Yaml
